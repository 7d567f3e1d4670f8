import ExternalFields.CommandLine.Running
import Mathlib.Data.List.TakeWhile
import Mathlib.Tactic.Lemma

/-!
# What a message shows

Messages are printed without terminal codes, and the names in them may hold such codes.  Of every
message something is left all the same: each has a punctuation mark in its own wording, which no
code swallows, or it starts with a word.

* `Text.hasMark`: whether a text holds a mark that is in no code.
* **`mem_dropCodes`**: such marks are printed.
* `dropCodes_eq_self`, `printed_whole`: what is printed as it is, and what is printed at all.
* `Text.IsShown`: a text of which something can be seen.
* **`Failure.message_shown`**: the messages of the failures that are told are seen.
* **`usageOutcome_cases`**: so are those of wrong command lines.
-/

namespace ExternalFields

namespace Text

/-- Whether a code point may stand in a terminal code. -/
def isOfCode (c : CodePoint) : Bool :=
  c == escapeMark || c == '[' || isCodeParameter c || c.char.isAlpha

/-- The punctuation marks that messages are made with. -/
def marks : Text := ".:'\","

/-- Whether a text holds a punctuation mark. -/
def hasMark (text : Text) : Bool := text.any marks.contains

/-- A text of which something can be seen. -/
def IsShown (text : Text) : Prop := ∃ c ∈ text, isBlank c = false

variable {text rest others : Text} {c : CodePoint}

/-! ## Codes -/

/-- What is in no code is behind the code that a text starts with. -/
lemma mem_codeEnd? (kept : isOfCode c = false) (code : codeEnd? rest = some others)
    (there : c ∈ rest) : c ∈ others := by
  simp only [isOfCode, Bool.or_eq_false_iff, beq_eq_false_iff_ne] at kept
  obtain ⟨⟨⟨-, no_bracket⟩, no_parameter⟩, no_letter⟩ := kept
  unfold codeEnd? at code
  split at code
  · next bracket =>
      obtain ⟨tail, rfl⟩ := List.isPrefixOf_iff_prefix.mp bracket
      have in_tail : c ∈ tail := by
        rcases List.mem_append.mp there with in_bracket | in_tail
        · exact absurd (List.mem_singleton.mp in_bracket) no_bracket
        · exact in_tail
      have behind : c ∈ tail.dropWhile isCodeParameter := by
        rw [← List.takeWhile_append_dropWhile (p := isCodeParameter) (l := tail)] at in_tail
        rcases List.mem_append.mp in_tail with parameter | behind
        · rw [List.mem_takeWhile_imp parameter] at no_parameter
          cases no_parameter
        · exact behind
      have dropped : (Text.ofString "[" ++ tail).drop 1 = tail := rfl
      rw [dropped] at code
      split at code
      · next letter after same =>
          rw [same] at behind
          split at code
          · next is_letter =>
              cases code
              rcases List.mem_cons.mp behind with rfl | behind
              · rw [is_letter] at no_letter
                cases no_letter
              · exact behind
          · cases code
      · cases code
  · cases code

/-- What is in no code is printed. -/
theorem mem_dropCodes (kept : isOfCode c = false) (there : c ∈ text) : c ∈ dropCodes text := by
  have no_escape : c ≠ escapeMark := by
    rintro rfl
    cases kept
  fun_induction dropCodes text with
  | case1 => exact there
  | case2 rest others code ih =>
      rcases List.mem_cons.mp there with same | behind
      · exact absurd same no_escape
      · exact ih (mem_codeEnd? kept code behind)
  | case3 rest no_code ih =>
      rcases List.mem_cons.mp there with same | behind
      · exact absurd same no_escape
      · exact List.mem_cons_of_mem _ (ih behind)
  | case4 first rest no_code ih =>
      rcases List.mem_cons.mp there with rfl | behind
      · exact List.mem_cons_self
      · exact List.mem_cons_of_mem _ (ih behind)

/-- A text without escape characters has no codes. -/
lemma dropCodes_eq_self (free : escapeMark ∉ text) : dropCodes text = text := by
  fun_induction dropCodes text with
  | case1 => rfl
  | case2 | case3 => exact absurd List.mem_cons_self free
  | case4 first rest _ ih => rw [ih fun mem => free (List.mem_cons_of_mem first mem)]

/-- What follows a code was there with it. -/
lemma codeEnd?_subset (code : codeEnd? rest = some others) : others ⊆ rest := by
  unfold codeEnd? at code
  split at code
  · have behind : (rest.drop 1).dropWhile isCodeParameter ⊆ rest :=
      List.Subset.trans (List.dropWhile_sublist _).subset (List.drop_subset 1 rest)
    split at code
    · next same =>
        rw [same] at behind
        split at code
        · cases code
          exact List.Subset.trans (List.subset_cons_self _ _) behind
        · cases code
    · cases code
  · cases code

/-- Dropping codes adds nothing. -/
lemma dropCodes_subset (text : Text) : dropCodes text ⊆ text := by
  fun_induction dropCodes text with
  | case1 => exact List.Subset.refl _
  | case2 rest others code ih =>
      exact List.subset_cons_of_subset _ (List.Subset.trans ih (codeEnd?_subset code))
  | case3 rest _ ih => exact List.cons_subset_cons _ ih
  | case4 first rest _ ih => exact List.cons_subset_cons _ ih

/-! ## Texts that are seen -/

lemma of_mem_marks (mark : c ∈ marks) : isOfCode c = false ∧ isBlank c = false := by
  have checked : marks.all fun c => !isOfCode c && !isBlank c := by decide +kernel
  simpa using List.all_eq_true.mp checked c mark

/-- A punctuation mark of a text is seen when the text is printed. -/
lemma shown_of_hasMark (marked : text.hasMark) : IsShown text.dropCodes := by
  obtain ⟨c, there, mark⟩ := List.any_eq_true.mp marked
  obtain ⟨kept, seen⟩ := of_mem_marks (List.contains_iff_mem.mp mark)
  exact ⟨c, mem_dropCodes kept there, seen⟩

@[simp] lemma hasMark_append (text others : Text) :
    (text ++ others).hasMark = (text.hasMark || others.hasMark) :=
  List.any_append

lemma IsShown.after (shown : IsShown text) (start : Text) : IsShown (start ++ text) := by
  obtain ⟨c, there, seen⟩ := shown
  exact ⟨c, List.mem_append_right start there, seen⟩

end Text

/-! ## Messages -/

open Text

namespace DocumentError

/-- Only data that cannot be followed is told of without any mark. -/
lemma message_hasMark : ∀ e : DocumentError, e.message.hasMark ∨ ∃ cause, e = .unusable cause
  | .fieldsNotList _ | .fieldNotMapping _ | .fieldWithoutName _ | .definitionsNotCollection _
  | .definitionNotMapping _ | .definitionWithoutName _ => .inl rfl
  | .notText path key => .inl (by
      rw [message, hasMark_append]
      exact Bool.or_eq_true_iff.mpr (.inr rfl))
  | .notFlag path key => .inl (by
      rw [message, hasMark_append]
      exact Bool.or_eq_true_iff.mpr (.inr rfl))
  | .notTexts path key => .inl (by
      rw [message, hasMark_append]
      exact Bool.or_eq_true_iff.mpr (.inr rfl))
  | .unusable cause => .inr ⟨cause, rfl⟩

end DocumentError

lemma ConfigurationError.message_hasMark : ∀ e : ConfigurationError, e.message.hasMark
  | .invalidReference _ | .manifestMissing _ | .rootNotMapping | .sectionNotMapping _
  | .referenceNotText => rfl
  | .manifestMalformed path => by
      simp only [message, hasMark_append, Bool.or_eq_true]
      exact .inl (.inr rfl)

lemma FileError.message_hasMark (e : FileError) : e.message.hasMark := by
  simp only [message, hasMark_append, Bool.or_eq_true]
  exact .inl (.inr rfl)

lemma ImportError.message_hasMark : ∀ e : ImportError, e.message.hasMark
  | .notAllowed _ | .notRegistered _ | .notDefined _ => rfl

lemma ParseError.message_hasMark :
    ∀ e : ParseError, e.message.hasMark ∨ ∃ cause, e = .document (.unusable cause)
  | .document e => by
      rcases e.message_hasMark with marked | ⟨cause, rfl⟩
      · exact .inl marked
      · exact .inr ⟨cause, rfl⟩
  | .malformedSchema => .inl rfl
  | .notText path fault => .inl (by
      simp only [message, hasMark_append, Bool.or_eq_true]
      exact .inl (.inr rfl))
  | .malformedFields path => .inl (by
      simp only [message, hasMark_append, Bool.or_eq_true]
      exact .inl (.inr rfl))

lemma SchemaError.message_hasMark :
    ∀ e : SchemaError, e.message.hasMark ∨ ∃ cause, e = .parse (.document (.unusable cause))
  | .parse e => by
      rcases e.message_hasMark with marked | ⟨cause, rfl⟩
      · exact .inl marked
      · exact .inr ⟨cause, rfl⟩
  | .unsatisfied schema url => .inl (by
      simp only [message, hasMark_append, Bool.or_eq_true]
      exact .inl (.inl (.inl (.inr rfl))))
  | .unreadableSchema .. | .unreachable _ | .unexpectedStatus .. | .cacheUnreadable _
  | .cacheNotMade _ | .cacheUnwritable _ => .inl rfl

namespace Failure

lemma message_hasMark {failure : Failure} (told : failure.isReported ∨ failure.isOfPackage) :
    failure.message.hasMark
      ∨ ∃ cause, failure = .schema (.parse (.document (.unusable cause))) := by
  cases failure with
  | configuration e => exact .inl e.message_hasMark
  | schema e =>
      rcases e.message_hasMark with marked | ⟨cause, rfl⟩
      · exact .inl marked
      · exact .inr ⟨cause, rfl⟩
  | importing e => exact .inl e.message_hasMark
  | file e => exact .inl e.message_hasMark
  | manifestExists _ | packageMissing _ | packageSchemas _ | packageFile _ _ => exact .inl rfl
  | encoding _ | data _ | unencodable | template _ | foreign _ =>
      simp [isReported, isOfPackage] at told

/-- **What is told is seen.**  The message of a failure that is told, in a line of its own, shows
something when it is printed. -/
theorem message_shown {failure : Failure} (told : failure.isReported ∨ failure.isOfPackage) :
    IsShown (failure.message ++ ("\n" : Text)).dropCodes := by
  rcases message_hasMark told with marked | ⟨cause, rfl⟩
  · refine shown_of_hasMark ?_
    rw [hasMark_append, marked, Bool.true_or]
  · have starts : (Failure.schema (.parse (.document (.unusable cause)))).message ++ ("\n" : Text)
        = ('u' : CodePoint) :: ("nusable data\n" : Text) := rfl
    rw [starts, dropCodes, if_neg (by decide)]
    exact ⟨_, List.mem_cons_self, by decide⟩

end Failure

namespace CommandLine

/-- A text is printed without its codes, or not at all. -/
lemma printed_cases (text : Text) :
    printed text = .error .unencodable ∨ printed text = .ok text.dropCodes := by
  rw [printed]
  split
  · exact .inl rfl
  · exact .inr rfl

/-- A text without halves of pairs is printed. -/
lemma printed_whole {text : Text} (whole : text.hasHalf = false) :
    printed text = .ok text.dropCodes := by
  have plain : text.dropCodes.hasHalf = false := by
    rw [hasHalf, List.any_eq_false] at whole ⊢
    exact fun c mem => whole c (dropCodes_subset text mem)
  rw [printed]
  simp [plain]

/-- A wrong command line is answered with a message that is seen, if it can be printed. -/
theorem usageOutcome_cases (usage path : Text) (e : UsageError) :
    usageOutcome usage path e = .error .unencodable
      ∨ ∃ stderr, usageOutcome usage path e = .ok { exit := 2, stderr } ∧ IsShown stderr := by
  unfold usageOutcome
  extract_lets hint
  have marked : (hint ++ ("Error: " : Text) ++ e.message ++ ("\n" : Text)).hasMark := by
    simp only [hasMark_append, Bool.or_eq_true]
    exact .inl (.inl (.inr rfl))
  rcases printed_cases (hint ++ ("Error: " : Text) ++ e.message ++ ("\n" : Text)) with fails | told
  · exact .inl (by rw [fails]; rfl)
  · exact .inr ⟨_, by rw [told]; rfl, shown_of_hasMark marked⟩

/-- The help on the program shows something. -/
lemma programHelp_shown : IsShown programHelp :=
  ⟨('U' : CodePoint), List.mem_cons_self, by decide⟩

end CommandLine

end ExternalFields
