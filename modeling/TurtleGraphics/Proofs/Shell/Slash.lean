import TurtleGraphics.Proofs.Command.Kinds
import TurtleGraphics.Proofs.Shell.Lines
import TurtleGraphics.Proofs.Text.Words

/-!
# Lines that begin with a slash

Such a line is for the shell itself. What follows the slash, without the blanks around it, is one of
`Meta.names` or a prefix of one (`Abbreviates`), a question mark, or unknown. The names begin with
different letters, so a prefix stands for one of them only, and nothing longer than a name stands
for it.

* `Meta.afterSlash_iff`: what follows the slash of a line;
* `Meta.ofName_eq_iff`, `Meta.ofName_of_unknown`: what a text asks for;
* `Turtle.meta_of_messages`: each of these commands can be told from what it says;
* `Shell.execLine_slash_grammar`: what a shell does with a line of this kind (`Shell.ObeysSlash`),
  and that no other ends a session.
-/

namespace TurtleGraphics

open Text (IsTrimmed isBlank trim trim_eq_iff)

/-! ## What a text asks for -/

/-- `text` is a nonempty prefix of `name`. -/
def Abbreviates (text name : String) : Prop :=
  text ≠ "" ∧ text.toList <+: name.toList

instance (text name : String) : Decidable (Abbreviates text name) :=
  inferInstanceAs (Decidable (text ≠ "" ∧ text.toList <+: name.toList))

namespace Meta

/-- `text` is what follows the slash that a line begins with, blanks aside. -/
def AfterSlash (line text : String) : Prop :=
  ∃ blanks rest, line.toList = blanks ++ '/' :: rest ∧ (∀ c ∈ blanks, isBlank c = true) ∧
    IsTrimmed rest text.toList

variable {line text : String} {e e' : String × Meta}

theorem afterSlash_iff : AfterSlash line text ↔ ∃ rest, afterSlash? line = some rest ∧
    trim rest = text := by
  constructor
  · rintro ⟨blanks, rest, hl, hb, ht⟩
    have hd : line.toList.dropWhile isBlank = '/' :: rest := by
      rw [hl, List.dropWhile_append_of_pos hb]
      exact List.dropWhile_cons_of_neg (by decide)
    refine ⟨String.ofList rest, ?_, ?_⟩
    · rw [afterSlash?, hd]
      rfl
    · rwa [trim_eq_iff, String.toList_ofList]
  · rintro ⟨rest, hs, ht⟩
    unfold afterSlash? at hs
    split at hs
    · rename_i cs hd
      obtain rfl := Option.some.inj hs
      refine ⟨line.toList.takeWhile isBlank, cs, ?_, List.all_eq_true.1 List.all_takeWhile, ?_⟩
      · rw [← hd, List.takeWhile_append_dropWhile]
      · rwa [trim_eq_iff, String.toList_ofList] at ht
    · cases hs

theorem ofLine?_of_afterSlash (h : AfterSlash line text) : ofLine? line = some (ofName text) := by
  obtain ⟨rest, hs, rfl⟩ := afterSlash_iff.1 h
  rw [ofLine?, hs, Option.map_some]

/-- A line has a text `AfterSlash`, which may be empty, if and only if it begins with a slash. -/
theorem exists_afterSlash_iff : (∃ text, AfterSlash line text) ↔ firstChar? line = some '/' := by
  rw [← isSome_ofLine?_iff, ofLine?, Option.isSome_map, Option.isSome_iff_exists]
  constructor
  · rintro ⟨text, h⟩
    obtain ⟨rest, hs, -⟩ := afterSlash_iff.1 h
    exact ⟨rest, hs⟩
  · rintro ⟨rest, hs⟩
    exact ⟨trim rest, afterSlash_iff.2 ⟨rest, hs, rfl⟩⟩

/-- A text `Abbreviates` one of the `names` at most. -/
theorem eq_of_abbreviates (he : e ∈ names) (he' : e' ∈ names) (h : Abbreviates text e.1)
    (h' : Abbreviates text e'.1) : e = e' := by
  have hnames : ∀ e ∈ names, ∀ e' ∈ names, e.1.toList.head? = e'.1.toList.head? → e = e' := by
    decide
  have hne : text.toList ≠ [] := fun hn => h.1 (String.toList_eq_nil_iff.1 hn)
  obtain ⟨c, cs, hc⟩ := List.exists_cons_of_ne_nil hne
  have begins {name : String} (hp : text.toList <+: name.toList) : name.toList.head? = some c := by
    obtain ⟨rest, hr⟩ := hp
    rw [← hr, hc]
    rfl
  exact hnames e he e' he' ((begins h.2).trans (begins h'.2).symm)

/-- `ofName` gives the command whose name `text` `Abbreviates`. -/
theorem ofName_of_abbreviates (he : e ∈ names) (h : Abbreviates text e.1) : ofName text = e.2 := by
  have hmark : ∀ e ∈ names, ¬ Abbreviates "?" e.1 := by decide
  have hne : text ≠ "?" := by
    rintro rfl
    exact hmark e he h
  rw [ofName, if_neg h.1, if_neg hne]
  cases hf : names.find? fun entry => text.toList.isPrefixOf entry.1.toList with
  | none =>
    have hn := List.find?_eq_none.1 hf e he
    exact absurd (List.isPrefixOf_iff_prefix.2 h.2) hn
  | some e' =>
    have hp : text.toList <+: e'.1.toList := by simpa using List.find?_some hf
    rw [eq_of_abbreviates he (List.mem_of_find?_eq_some hf) h ⟨h.1, hp⟩]

/-- `ofName` is `.unknown` for a text that `Abbreviates` none of the `names`, be it empty or too
long. -/
theorem ofName_of_unknown (hq : text ≠ "?") (h : ∀ e ∈ names, ¬ Abbreviates text e.1) :
    ofName text = .unknown text := by
  by_cases h0 : text = ""
  · rw [ofName, if_pos h0]
  · have hf : (names.find? fun entry => text.toList.isPrefixOf entry.1.toList) = none :=
      List.find?_eq_none.2 fun e he hp => h e he ⟨h0, List.isPrefixOf_iff_prefix.1 hp⟩
    rw [ofName, if_neg h0, if_neg hq, hf]

theorem ne_unknown_of_mem (he : e ∈ names) : e.2 ≠ .unknown text := by
  have hknown : ∀ e ∈ names, e.2 ≠ .unknown text := by simp [names]
  exact hknown e he

theorem ofName_eq_iff (he : e ∈ names) :
    ofName text = e.2 ↔ Abbreviates text e.1 ∨ text = "?" ∧ e.2 = .help := by
  have hdistinct : ∀ e ∈ names, ∀ e' ∈ names, e.2 = e'.2 → e = e' := by decide
  constructor
  · intro h
    by_cases hq : text = "?"
    · subst hq
      exact .inr ⟨rfl, h.symm⟩
    by_cases hn : ∃ e' ∈ names, Abbreviates text e'.1
    · obtain ⟨e', he', ha⟩ := hn
      have hsame : e' = e := hdistinct e' he' e he ((ofName_of_abbreviates he' ha).symm.trans h)
      exact .inl (hsame ▸ ha)
    · rw [ofName_of_unknown hq fun e' he' ha => hn ⟨e', he', ha⟩] at h
      exact absurd h.symm (ne_unknown_of_mem he)
  · rintro (ha | ⟨rfl, hh⟩)
    · exact ofName_of_abbreviates he ha
    · rw [hh]
      rfl

theorem ofName_eq_unknown_iff :
    ofName text = .unknown text ↔ text ≠ "?" ∧ ∀ e ∈ names, ¬ Abbreviates text e.1 := by
  refine ⟨fun h => ⟨?_, fun e he ha => ?_⟩, fun h => ofName_of_unknown h.1 h.2⟩
  · rintro rfl
    cases h
  · exact ne_unknown_of_mem he ((ofName_of_abbreviates he ha).symm.trans h)

example : ofName "he" = .help ∧ ofName "q uit" = .unknown "q uit" := by decide

example : ofName "" = .unknown "" ∧ ofName "posh" = .unknown "posh" := by decide

end Meta

/-! ## What the commands say -/

theorem Text.exists_intercalate_cons {α : Type} (gap piece : List α) (pieces : List (List α)) :
    ∃ rest, gap.intercalate (piece :: pieces) = piece ++ rest := by
  cases pieces with
  | nil => exact ⟨[], by simp⟩
  | cons next pieces =>
    refine ⟨gap ++ gap.intercalate (next :: pieces), ?_⟩
    rw [List.intercalate_cons_cons, List.append_assoc]

/-- `helpText` begins with its title, so it is no answer to `/pos`. -/
theorem Shell.helpText_ne (text : String) : helpText ≠ "turtle is at " ++ text := by
  obtain ⟨rest, hr⟩ := Text.exists_intercalate_cons "\n".toList "turtle commands:".toList
    (helpLines.tail.map String.toList)
  have hhelp : helpText.toList = "turtle commands:".toList ++ rest := by
    rw [helpText, String.toList_intercalate, ← hr]
    rfl
  intro h
  have hseventh := congrArg (fun cs => cs[7]?) hhelp
  rw [h, String.toList_append, List.getElem?_append_left (by decide),
    List.getElem?_append_left (by decide)] at hseventh
  exact absurd hseventh (by decide)

theorem Turtle.meta_of_messages {t : Turtle} {m m' : Meta}
    (h : (t.metaEffect m).messages = (t.metaEffect m').messages) : m = m' := by
  cases m <;> cases m' <;>
    simp_all [metaEffect, Shell.helpText_ne, (Shell.helpText_ne _).symm]

namespace Shell

variable {s : Shell} {line text : String}

theorem said_of_meta {m : Meta} (h : Meta.ofLine? line = some m) :
    s.said line = (s.turtle.metaEffect m).messages := by
  rw [said_eq, Turtle.effect, h]

/-- The messages of `metaEffect` tell which command it was. -/
theorem said_eq_iff (h : Meta.AfterSlash line text) (m : Meta) :
    s.said line = (s.turtle.metaEffect m).messages ↔ Meta.ofName text = m := by
  rw [said_of_meta (Meta.ofLine?_of_afterSlash h)]
  refine ⟨Turtle.meta_of_messages, ?_⟩
  rintro rfl
  rfl

theorem ending_eq_quit_iff (h : Meta.AfterSlash line text) :
    (s.execLine line).1 = some .quit ↔ Meta.ofName text = .quit := by
  rw [execLine_eq, Turtle.effect, Meta.ofLine?_of_afterSlash h]
  cases Meta.ofName text <;> simp [Turtle.metaEffect]

/-- A `Meta` command sends the messages of `said` and changes nothing else. -/
theorem execLine_of_meta {m : Meta} (h : Meta.ofLine? line = some m) :
    (s.execLine line).2 =
      { s with console := (s.said line).foldl Console.send s.console } := by
  rw [said_of_meta h, execLine_eq, Turtle.effect, h]
  cases m <;> rfl

/-- What `execLine` does with a `line` that has `text` behind its slash. -/
structure ObeysSlash (s : Shell) (line text : String) : Prop where
  quits_iff : (s.execLine line).1 = some .quit ↔ Abbreviates text "quit"
  helps_iff : s.said line = [.print helpText] ↔ Abbreviates text "help" ∨ text = "?"
  tells_iff : s.said line = [.print ("turtle is at " ++ s.turtle.current.describe)] ↔
    Abbreviates text "pos"
  /-- Any other `text` is reported as it stands, be it empty or longer than a name. -/
  unknown_iff : s.said line = [.printErr ("unknown command /" ++ text)] ↔
    ¬ Abbreviates text "quit" ∧ ¬ (Abbreviates text "help" ∨ text = "?") ∧
      ¬ Abbreviates text "pos"
  /-- `quit` is not answered. -/
  silent : Abbreviates text "quit" → s.said line = []
  /-- `s.turtle`, `s.window` and the input stay as they are. -/
  kept : (s.execLine line).2 = { s with console := (s.said line).foldl Console.send s.console }

theorem obeysSlash_of_afterSlash (s : Shell) (h : Meta.AfterSlash line text) :
    s.ObeysSlash line text := by
  have hhelp : ("help", Meta.help) ∈ Meta.names := by simp [Meta.names]
  have hpos : ("pos", Meta.pos) ∈ Meta.names := by simp [Meta.names]
  have hquit : ("quit", Meta.quit) ∈ Meta.names := by simp [Meta.names]
  refine ⟨?_, ?_, ?_, ?_, fun hq => ?_, execLine_of_meta (Meta.ofLine?_of_afterSlash h)⟩
  · rw [ending_eq_quit_iff h, Meta.ofName_eq_iff hquit]
    simp
  · refine (said_eq_iff h .help).trans ?_
    rw [Meta.ofName_eq_iff hhelp]
    simp
  · refine (said_eq_iff h .pos).trans ?_
    rw [Meta.ofName_eq_iff hpos]
    simp
  · refine (said_eq_iff h (.unknown text)).trans ?_
    rw [Meta.ofName_eq_unknown_iff]
    simp only [Meta.names, List.forall_mem_cons]
    constructor
    · rintro ⟨hm, hh, hp, hq, -⟩
      exact ⟨hq, fun hhm => hhm.elim hh hm, hp⟩
    · rintro ⟨hq, hhm, hp⟩
      exact ⟨fun hm => hhm (.inr hm), fun hh => hhm (.inl hh), hp, hq, by simp⟩
  · exact (said_eq_iff h .quit).2 (Meta.ofName_of_abbreviates hquit hq)

/-- A line whose `firstChar?` is a slash has a text `AfterSlash`, which decides what `execLine`
does: it quits for a prefix of `quit`, helps for a prefix of `help` or a question mark, tells the
position for a prefix of `pos`, and reports anything else. No other line ends a session. -/
theorem execLine_slash_grammar (s : Shell) (line : String) :
    ((∃ text, Meta.AfterSlash line text) ↔ firstChar? line = some '/') ∧
    (∀ text, Meta.AfterSlash line text → s.ObeysSlash line text) ∧
    (firstChar? line ≠ some '/' → (s.execLine line).1 = none) := by
  refine ⟨Meta.exists_afterSlash_iff, fun text h => obeysSlash_of_afterSlash s h, fun hf => ?_⟩
  refine ending_execLine fun hq => hf ?_
  rw [← isSome_ofLine?_iff, hq]
  rfl

end Shell

end TurtleGraphics
