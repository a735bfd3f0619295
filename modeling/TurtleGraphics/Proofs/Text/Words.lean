import TurtleGraphics.Text.Words

/-!
# Words of a text

A word has something in it and no blank (`IsWord`), and the words of a text are the maximal runs of
this kind. `HasWords` says so run by run, and a text has the words that `words` finds and no others
(`hasWords_iff`, `words_eq_iff`). Nothing else restricts what the words of a text can be: words
written one behind the other with any blanks in between are the words of that text
(`cutWords_intercalate`, `words_intercalate`), and the words of a text joined by single spaces are
still the same words (`words_intercalate_words`). `IsTrimmed` says in the same way what is left of a
text without the blanks at either end (`trim_eq_iff`).
-/

namespace TurtleGraphics.Text

/-- `w` can be a word of a text: it is not empty and has no blanks. -/
structure IsWord (w : List Char) : Prop where
  ne_nil : w ≠ []
  noBlank : ∀ c ∈ w, isBlank c = false

theorem isBlank_space : isBlank ' ' = true :=
  isBlank_of_isWhitespace rfl

theorem isBlank_of_isDigit {c : Char} (h : c.isDigit = true) : isBlank c = false := by
  have hd : 48 ≤ c.toNat ∧ c.toNat ≤ 57 := by
    simpa [Char.isDigit, UInt32.le_iff_toNat_le] using h
  rw [isBlank, ← Bool.not_eq_true, inRanges_iff]
  rintro ⟨r, hr, hl, hu⟩
  simp only [blankRanges, List.mem_cons, List.not_mem_nil, or_false] at hr
  rcases hr with rfl | rfl | rfl | rfl | rfl | rfl | rfl | rfl | rfl | rfl <;>
  · dsimp only at hl hu
    omega

theorem cutWords_of_isWord {w : List Char} (h : IsWord w) : cutWords w = [w] := by
  have hs : w.splitOnP isBlank = [w] := List.splitOnP_eq_singleton h.noBlank
  simp [cutWords, hs, h.ne_nil]

/-! ## The words that a text has -/

/-- `HasWords cs ws` if `ws` are the maximal runs of characters of `cs` without a blank: each begins
at the front or behind a blank, and goes on to the next blank or the end. -/
inductive HasWords : List Char → List (List Char) → Prop
  | nil : HasWords [] []
  | blank {c : Char} {cs : List Char} {ws : List (List Char)} (hc : isBlank c = true)
    (behind : HasWords cs ws) : HasWords (c :: cs) ws
  | last {w : List Char} (hw : IsWord w) : HasWords w [w]
  | word {w : List Char} {c : Char} {cs : List Char} {ws : List (List Char)} (hw : IsWord w)
    (hc : isBlank c = true) (behind : HasWords cs ws) : HasWords (w ++ c :: cs) (w :: ws)

theorem IsWord.cons {c : Char} (hc : isBlank c = false) {w : List Char} (h : IsWord w) :
    IsWord (c :: w) :=
  ⟨List.cons_ne_nil c w, List.forall_mem_cons.2 ⟨hc, h.noBlank⟩⟩

/-- A character `c` in front of `cs` is a blank, a word of its own or the beginning of the first
word. -/
theorem HasWords.exists_cons (c : Char) {cs : List Char} {ws : List (List Char)}
    (h : HasWords cs ws) : ∃ ws', HasWords (c :: cs) ws' := by
  cases hc : isBlank c with
  | true => exact ⟨ws, .blank hc h⟩
  | false =>
    have hone : IsWord [c] := ⟨List.cons_ne_nil c [], by simpa using hc⟩
    cases h with
    | nil => exact ⟨_, .last hone⟩
    | blank hd behind => exact ⟨_, .word hone hd behind⟩
    | last hw => exact ⟨_, .last (hw.cons hc)⟩
    | word hw hd behind => exact ⟨_, .word (hw.cons hc) hd behind⟩

theorem HasWords.cutWords_eq {cs : List Char} {ws : List (List Char)} (h : HasWords cs ws) :
    cutWords cs = ws := by
  induction h with
  | nil => exact cutWords_nil
  | blank hc _ ih => rw [cutWords_cons hc, ih]
  | last hw => exact cutWords_of_isWord hw
  | word hw hc _ ih =>
    rw [cutWords_append_cons hc, cutWords_of_isWord hw, ih, List.singleton_append]

theorem exists_hasWords (cs : List Char) : ∃ ws, HasWords cs ws := by
  induction cs with
  | nil => exact ⟨[], .nil⟩
  | cons c cs ih =>
    obtain ⟨ws, h⟩ := ih
    exact h.exists_cons c

theorem hasWords_iff {cs : List Char} {ws : List (List Char)} :
    HasWords cs ws ↔ cutWords cs = ws := by
  refine ⟨HasWords.cutWords_eq, ?_⟩
  rintro rfl
  obtain ⟨ws, h⟩ := exists_hasWords cs
  rwa [h.cutWords_eq]

theorem words_eq_iff {line : String} {ws : List String} :
    words line = ws ↔ HasWords line.toList (ws.map String.toList) := by
  rw [hasWords_iff, words]
  constructor
  · rintro rfl
    simp
  · intro h
    simp [h]

theorem HasWords.isWord {cs : List Char} {ws : List (List Char)} (h : HasWords cs ws) :
    ∀ w ∈ ws, IsWord w := by
  induction h with
  | nil => simp
  | blank _ _ ih => exact ih
  | last hw => simpa using hw
  | word hw _ _ ih => exact List.forall_mem_cons.2 ⟨hw, ih⟩

theorem isWord_of_mem_words {line w : String} (h : w ∈ words line) : IsWord w.toList :=
  (words_eq_iff.1 rfl).isWord _ (List.mem_map_of_mem h)

/-! ## Texts with given words -/

/-- `cutWords` drops the blanks `bs` in front. -/
theorem cutWords_append_of_blank {bs : List Char} (hb : ∀ c ∈ bs, isBlank c = true)
    (cs : List Char) : cutWords (bs ++ cs) = cutWords cs := by
  induction bs with
  | nil => rfl
  | cons b bs ih =>
    obtain ⟨hb, hbs⟩ := List.forall_mem_cons.1 hb
    rw [List.cons_append, cutWords_cons hb, ih hbs]

/-- `cutWords` finds the words `ws` again if `gap` is between any two of them. -/
theorem cutWords_intercalate {gap : List Char} (hne : gap ≠ [])
    (hg : ∀ c ∈ gap, isBlank c = true) {ws : List (List Char)} (hw : ∀ w ∈ ws, IsWord w) :
    cutWords (gap.intercalate ws) = ws := by
  obtain ⟨b, bs, rfl⟩ := List.exists_cons_of_ne_nil hne
  obtain ⟨hb, hbs⟩ := List.forall_mem_cons.1 hg
  induction ws with
  | nil => simp
  | cons w ws ih =>
    obtain ⟨hfirst, hrest⟩ := List.forall_mem_cons.1 hw
    have hone := cutWords_of_isWord hfirst
    cases ws with
    | nil => rw [List.intercalate_singleton, hone]
    | cons v ws =>
      rw [List.intercalate_cons_cons, List.append_assoc, List.cons_append, cutWords_append_cons hb,
        cutWords_append_of_blank hbs, ih hrest, hone, List.singleton_append]

theorem map_intercalate {α β : Type} (f : α → β) (gap : List α) (ws : List (List α)) :
    (gap.intercalate ws).map f = (gap.map f).intercalate (ws.map (List.map f)) := by
  induction ws with
  | nil => rfl
  | cons w ws ih =>
    cases ws with
    | nil => simp
    | cons v ws => simp_all [List.intercalate_cons_cons]

/-- `words` finds `ws` again if they are joined by single spaces. -/
theorem words_intercalate {ws : List String} (hw : ∀ w ∈ ws, IsWord w.toList) :
    words (" ".intercalate ws) = ws := by
  have hc : ∀ w ∈ ws.map String.toList, IsWord w := by simpa using hw
  have hg : ∀ c ∈ " ".toList, isBlank c = true := by simp [isBlank_space]
  rw [words, String.toList_intercalate, cutWords_intercalate (by decide) hg hc]
  simp

/-- Joined by single spaces, the `words` of a line are the same. -/
theorem words_intercalate_words (line : String) :
    words (" ".intercalate (words line)) = words line :=
  words_intercalate fun _ hw => isWord_of_mem_words hw

/-! ## Texts without the blanks at their ends -/

/-- `text` is what is left of `cs` without the blanks at either end. -/
structure IsTrimmed (cs text : List Char) : Prop where
  around : ∃ front back, cs = front ++ text ++ back ∧ (∀ c ∈ front, isBlank c = true) ∧
    ∀ c ∈ back, isBlank c = true
  first : ∀ c, text.head? = some c → isBlank c = false
  last : ∀ c, text.getLast? = some c → isBlank c = false

/-- `cs` without the blanks in front, and then without those at the end. -/
def trimmed (cs : List Char) : List Char :=
  ((cs.dropWhile isBlank).reverse.dropWhile isBlank).reverse

theorem dropWhile_of_head? {cs : List Char} (h : ∀ c, cs.head? = some c → isBlank c = false) :
    cs.dropWhile isBlank = cs := by
  cases cs with
  | nil => rfl
  | cons c cs => exact List.dropWhile_cons_of_neg (by simp [h c rfl])

theorem isBlank_of_head?_dropWhile (cs : List Char) {c : Char}
    (h : (cs.dropWhile isBlank).head? = some c) : isBlank c = false := by
  have hn := List.head?_dropWhile_not isBlank cs
  rwa [h] at hn

theorem IsTrimmed.trimmed_eq {cs text : List Char} (h : IsTrimmed cs text) : trimmed cs = text := by
  obtain ⟨front, back, rfl, hf, hb⟩ := h.around
  have hback : ∀ c ∈ back.reverse, isBlank c = true := by simpa using hb
  rw [trimmed, List.append_assoc, List.dropWhile_append_of_pos hf]
  cases text with
  | nil =>
    have hnone : back.dropWhile isBlank = [] := by
      rw [← List.append_nil back, List.dropWhile_append_of_pos hb, List.dropWhile_nil]
    simp [hnone]
  | cons c text =>
    have hfirst : (c :: text ++ back).dropWhile isBlank = c :: text ++ back :=
      dropWhile_of_head? fun d hd => h.first d hd
    have hlast : (c :: text).reverse.dropWhile isBlank = (c :: text).reverse :=
      dropWhile_of_head? fun d hd => h.last d (by rwa [List.head?_reverse] at hd)
    rw [hfirst, List.reverse_append, List.dropWhile_append_of_pos hback, hlast,
      List.reverse_reverse]

theorem isTrimmed_trimmed (cs : List Char) : IsTrimmed cs (trimmed cs) := by
  have hrest : trimmed cs ++ ((cs.dropWhile isBlank).reverse.takeWhile isBlank).reverse =
      cs.dropWhile isBlank := by
    rw [trimmed, ← List.reverse_append, List.takeWhile_append_dropWhile, List.reverse_reverse]
  refine ⟨⟨cs.takeWhile isBlank, ((cs.dropWhile isBlank).reverse.takeWhile isBlank).reverse,
    ?_, ?_, ?_⟩, fun c hc => ?_, fun c hc => ?_⟩
  · rw [List.append_assoc, hrest, List.takeWhile_append_dropWhile]
  · exact List.all_eq_true.1 List.all_takeWhile
  · intro c hc
    exact List.all_eq_true.1 List.all_takeWhile c (List.mem_reverse.1 hc)
  · -- The first character that is left is also the first behind the blanks in front.
    refine isBlank_of_head?_dropWhile cs ?_
    rw [← hrest, List.head?_append, hc, Option.some_or]
  · refine isBlank_of_head?_dropWhile (cs.dropWhile isBlank).reverse ?_
    rwa [trimmed, List.getLast?_reverse] at hc

theorem trim_eq_iff {text t : String} : trim text = t ↔ IsTrimmed text.toList t.toList := by
  have ht : trim text = String.ofList (trimmed text.toList) := rfl
  rw [ht]
  constructor
  · rintro rfl
    rw [String.toList_ofList]
    exact isTrimmed_trimmed _
  · intro h
    rw [h.trimmed_eq, String.ofList_toList]

end TurtleGraphics.Text
