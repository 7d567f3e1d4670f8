import ExternalFields.Proofs.Text.Utf8
import ExternalFields.Yaml.Writing

/-!
# What is written with a pen

Whatever a pen writes is made of characters that a document may hold, control characters never among
them.  Text that holds others is written between quotation marks, where each of these is escaped; the
escapes are letters and digits.

* `MayHold`: texts of allowed characters.
* `mayHold_toDigits`, `mayHold_escape`: digits and escapes.
* `Pen.IsClean`: a pen that has written nothing else; the strokes keep it so.
* **`Pen.plain_clean`**, **`Pen.single_clean`**, **`Pen.double_clean`**: scalars in each style.
-/

namespace ExternalFields.Yaml

/-- A text of characters that a document may hold. -/
def MayHold (chars : List Char) : Prop := ∀ c ∈ chars, isAllowed c

instance : DecidablePred MayHold := fun chars =>
  decidable_of_iff (chars.all isAllowed) List.all_eq_true

@[simp] lemma mayHold_nil : MayHold [] := List.forall_mem_nil _

@[simp] lemma mayHold_cons {c : Char} {rest : List Char} :
    MayHold (c :: rest) ↔ isAllowed c ∧ MayHold rest := List.forall_mem_cons

@[simp] lemma mayHold_append {front rest : List Char} :
    MayHold (front ++ rest) ↔ MayHold front ∧ MayHold rest := List.forall_mem_append

lemma MayHold.subset {part whole : List Char} (clean : MayHold whole) (sub : part ⊆ whole) :
    MayHold part := fun c mem => clean c (sub mem)

lemma mayHold_replicate (count : ℕ) {c : Char} (allowed : isAllowed c) :
    MayHold (List.replicate count c) := by
  intro other mem
  rwa [List.eq_of_mem_replicate mem]

/-! ## Characters -/

/-- The allowed characters by their numbers. -/
lemma isAllowed_iff {c : Char} :
    isAllowed c ↔ c.toNat = 0x09 ∨ c.toNat = 0x0A ∨ c.toNat = 0x0D
      ∨ 0x20 ≤ c.toNat ∧ c.toNat ≤ 0x7E ∨ c.toNat = 0x85 ∨ 0xA0 ≤ c.toNat ∧ c.toNat ≤ 0xFFFD
      ∨ 0x10000 ≤ c.toNat := by
  have tab : c = '\t' ↔ c.toNat = 0x09 := Char.toNat_inj.symm
  have feed : c = '\n' ↔ c.toNat = 0x0A := Char.toNat_inj.symm
  have ending : c = '\r' ↔ c.toNat = 0x0D := Char.toNat_inj.symm
  simp only [isAllowed, Bool.or_eq_true, Bool.and_eq_true, beq_iff_eq, decide_eq_true_eq, tab,
    feed, ending]
  omega

/-- What is not special may stand in a document. -/
lemma isAllowed_of_unspecial {c : Char} (unspecial : Style.isSpecial c = false) :
    isAllowed c := by
  have feed : c = '\n' ↔ c.toNat = 0x0A := Char.toNat_inj.symm
  simp only [Style.isSpecial, Bool.not_eq_false', Bool.or_eq_true, Bool.and_eq_true, beq_iff_eq,
    bne_iff_ne, decide_eq_true_eq, feed] at unspecial
  rw [isAllowed_iff]
  omega

/-- What is not escaped may stand in a document. -/
lemma isAllowed_of_unescaped {c : CodePoint} (bare : Pen.isEscaped c = false) :
    isAllowed c.char := by
  simp only [Pen.isEscaped, Bool.or_eq_false_iff, Bool.not_eq_false', Bool.or_eq_true,
    Bool.and_eq_true, decide_eq_true_eq] at bare
  obtain ⟨⟨⟨-, whole⟩, -⟩, range⟩ := bare
  have apart : c.val < 0xD800 ∨ 0xDFFF < c.val := by
    simp only [CodePoint.isHalf, Bool.and_eq_false_iff, decide_eq_false_iff_not] at whole
    omega
  have number : c.char.toNat = c.val := by
    rw [CodePoint.char, whole, if_neg Bool.false_ne_true]
    exact Utf8.toNat_ofNat c.isLt apart
  rw [isAllowed_iff]
  omega

/-! ## Digits -/

lemma isAllowed_digitChar (n : Nat) : isAllowed (Nat.digitChar n) := by
  have digits : ∀ m < 16, isAllowed (Nat.digitChar m) := by decide
  by_cases digit : n < 16
  · exact digits n digit
  · have none_left : Nat.digitChar n = '*' := by
      simp only [Nat.digitChar]
      repeat rw [if_neg (by omega)]
    rw [none_left]
    decide

lemma mayHold_toDigitsCore (base : ℕ) : ∀ (fuel n : ℕ) {digits : List Char},
    MayHold digits → MayHold (Nat.toDigitsCore base fuel n digits)
  | 0, _, _, clean => clean
  | fuel + 1, n, digits, clean => by
      have more : MayHold (Nat.digitChar (n % base) :: digits) :=
        mayHold_cons.mpr ⟨isAllowed_digitChar _, clean⟩
      rw [Nat.toDigitsCore]
      split
      · exact more
      · exact mayHold_toDigitsCore base fuel (n / base) more

lemma mayHold_toDigits (base n : ℕ) : MayHold (Nat.toDigits base n) :=
  mayHold_toDigitsCore base (n + 1) n mayHold_nil

/-- Digits filled up with zeros. -/
lemma mayHold_padded (width : ℕ) {digits : List Char} (clean : MayHold digits) :
    MayHold (List.replicate width '0' ++ digits) :=
  mayHold_append.mpr ⟨mayHold_replicate width (by decide), clean⟩

/-- A letter is a letter in upper case, too. -/
lemma isAllowed_toUpper {c : Char} (allowed : isAllowed c) : isAllowed c.toUpper := by
  unfold Char.toUpper
  split
  · next lower =>
      have low : 0x61 ≤ c.val.toNat := lower.1
      have high : c.val.toNat ≤ 0x7A := lower.2
      have shift : ('A'.val - 'a'.val).toNat = 2 ^ 32 - 32 := by decide
      have number : (c.val + ('A'.val - 'a'.val)).toNat = c.val.toNat - 32 := by
        rw [UInt32.toNat_add, shift]
        omega
      rw [isAllowed_iff, Char.toNat, number]
      omega
  · exact allowed

/-! ## Escapes -/

/-- Escapes are letters and digits after a backslash. -/
lemma mayHold_escape (c : CodePoint) : MayHold (Pen.escape c).toList := by
  have upper : ∀ width, MayHold ((Utf8.hex width c.val).map Char.toUpper).toList := by
    intro width other mem
    rw [String.toList_map, Utf8.hex, String.toList_ofList] at mem
    obtain ⟨digit, digit_mem, rfl⟩ := List.mem_map.mp mem
    exact isAllowed_toUpper (mayHold_padded _ (mayHold_toDigits 16 c.val) digit digit_mem)
  have letters : Pen.escapeLetters.all fun entry => isAllowed entry.2 := by decide
  unfold Pen.escape
  dsimp only
  split
  · next letter found =>
      obtain ⟨front, rest, split, -⟩ := List.lookup_eq_some_iff.mp found
      have allowed := List.all_eq_true.mp letters (c.char, letter) (by simp [split])
      rw [String.toList_ofList, mayHold_cons, mayHold_cons]
      exact ⟨by decide, allowed, mayHold_nil⟩
  · split_ifs
    all_goals
      rw [String.toList_append, mayHold_append]
      exact ⟨by decide, upper _⟩

/-! ## Strokes -/

namespace Pen

variable {pen : Pen}

/-- A pen that has written nothing but allowed characters. -/
def IsClean (pen : Pen) : Prop := MayHold pen.text.toList

/-- Only the text counts. -/
lemma IsClean.of_text {other : Pen} (clean : pen.IsClean) (same : other.text = pen.text) :
    other.IsClean := by
  rwa [IsClean, same]

lemma IsClean.ite {other : Pen} {p : Prop} [Decidable p] (clean : pen.IsClean)
    (otherwise : other.IsClean) : (if p then pen else other).IsClean := by
  split
  · exact clean
  · exact otherwise

lemma put_clean (clean : pen.IsClean) {s : String} (allowed : MayHold s.toList) :
    (pen.put s).IsClean := by
  rw [IsClean, put, String.toList_append, mayHold_append]
  exact ⟨clean, allowed⟩

lemma putChars_clean (clean : pen.IsClean) {chars : List Char} (allowed : MayHold chars) :
    (pen.putChars chars).IsClean :=
  put_clean clean (by rwa [String.toList_ofList])

lemma lineBreak_clean (clean : pen.IsClean) {c : Char} (allowed : isAllowed c) :
    (pen.lineBreak c).IsClean := by
  rw [IsClean, lineBreak, String.toList_push, mayHold_append]
  exact ⟨clean, mayHold_cons.mpr ⟨allowed, mayHold_nil⟩⟩

lemma settled_clean (clean : pen.IsClean) : pen.settled.IsClean := clean.of_text rfl

lemma indentTo_clean (clean : pen.IsClean) (indent : ℕ) : (pen.indentTo indent).IsClean := by
  have blanks : ∀ count, MayHold (String.ofList (List.replicate count ' ')).toList := by
    intro count
    rw [String.toList_ofList]
    exact mayHold_replicate count (by decide)
  rw [indentTo]
  refine IsClean.ite (IsClean.of_text (put_clean ?started (blanks _)) rfl) ?started
  exact (lineBreak_clean clean (by decide)).ite clean

lemma indicator_clean (clean : pen.IsClean) {mark : String} (allowed : MayHold mark.toList)
    (needed keepsFresh : Bool) : (pen.indicator mark needed keepsFresh).IsClean := by
  have spelled : MayHold (if pen.spaced || !needed then mark else " " ++ mark).toList := by
    split
    · exact allowed
    · rw [String.toList_append, mayHold_append]
      exact ⟨by decide, allowed⟩
  exact (put_clean clean spelled).of_text rfl

/-! ## Scalars -/

lemma takeWhile_allowed {chars : List Char} (allowed : MayHold chars) (p : Char → Bool) :
    MayHold (chars.takeWhile p) :=
  allowed.subset (List.takeWhile_sublist p).subset

lemma dropWhile_allowed {chars : List Char} (allowed : MayHold chars) (p : Char → Bool) :
    MayHold (chars.dropWhile p) :=
  allowed.subset (List.dropWhile_sublist p).subset

lemma plainRest_clean (folds : Bool) (indent : ℕ) (chars : List Char) (pen : Pen)
    (allowed : MayHold chars) (clean : pen.IsClean) :
    (plainRest folds indent chars pen).IsClean := by
  fun_induction plainRest folds indent chars pen with
  | case1 => exact clean
  | case2 pen rest blanks others pen' ih =>
      obtain ⟨blank, rest_allowed⟩ := mayHold_cons.mp allowed
      refine ih (dropWhile_allowed rest_allowed _) ?_
      unfold pen'
      split
      · exact settled_clean (indentTo_clean clean indent)
      · exact putChars_clean clean (mayHold_cons.mpr ⟨blank, takeWhile_allowed rest_allowed _⟩)
  | case3 pen c rest _ ih =>
      obtain ⟨first, rest_allowed⟩ := mayHold_cons.mp allowed
      refine ih (dropWhile_allowed rest_allowed _) ?_
      exact putChars_clean clean (mayHold_cons.mpr ⟨first, takeWhile_allowed rest_allowed _⟩)

/-- **Plain scalars** are written as they are. -/
lemma plain_clean (clean : pen.IsClean) (folds : Bool) (indent : ℕ) {chars : List Char}
    (allowed : MayHold chars) : (pen.plain folds indent chars).IsClean := by
  rw [plain]
  split
  · exact clean
  · refine plainRest_clean folds indent chars _ allowed (settled_clean ?_)
    split
    · exact clean
    · exact put_clean clean (by decide)

lemma breakRun_clean (indent : ℕ) {breaks : List Char} (allowed : MayHold breaks)
    (clean : pen.IsClean) : (pen.breakRun indent breaks).IsClean := by
  have broken : ∀ {breaks : List Char} {pen : Pen}, MayHold breaks → pen.IsClean →
      (breaks.foldl lineBreak pen).IsClean := by
    intro breaks
    induction breaks with
    | nil => exact fun _ clean => clean
    | cons c rest ih =>
        intro pen allowed clean
        obtain ⟨first, rest_allowed⟩ := mayHold_cons.mp allowed
        exact ih rest_allowed (lineBreak_clean clean first)
  rw [breakRun]
  refine indentTo_clean (broken allowed ?_) indent
  split
  · exact lineBreak_clean clean (by decide)
  · exact clean

lemma singleRest_clean (folds : Bool) (indent : ℕ) (atStart : Bool) (chars : List Char)
    (pen : Pen) (allowed : MayHold chars) (clean : pen.IsClean) :
    (singleRest folds indent atStart chars pen).IsClean := by
  fun_induction singleRest folds indent atStart chars pen with
  | case1 => exact clean
  | case2 atStart pen rest blanks others pen' ih =>
      obtain ⟨blank, rest_allowed⟩ := mayHold_cons.mp allowed
      refine ih (dropWhile_allowed rest_allowed _) ?_
      unfold pen'
      split
      · exact indentTo_clean clean indent
      · exact putChars_clean clean (mayHold_cons.mpr ⟨blank, takeWhile_allowed rest_allowed _⟩)
  | case3 atStart pen c rest _ _ ih =>
      obtain ⟨first, rest_allowed⟩ := mayHold_cons.mp allowed
      refine ih (dropWhile_allowed rest_allowed _) (breakRun_clean indent ?_ clean)
      exact mayHold_cons.mpr ⟨first, takeWhile_allowed rest_allowed _⟩
  | case4 atStart pen c rest _ _ ih =>
      obtain ⟨first, rest_allowed⟩ := mayHold_cons.mp allowed
      refine ih rest_allowed (put_clean clean ?_)
      split
      · decide
      · simpa [Char.toString] using first

/-- **Scalars between apostrophes** are written as they are, but for the apostrophes. -/
lemma single_clean (clean : pen.IsClean) (folds : Bool) (indent : ℕ) {chars : List Char}
    (allowed : MayHold chars) : (pen.single folds indent chars).IsClean :=
  indicator_clean (singleRest_clean folds indent true chars _ allowed
    (indicator_clean clean (by decide) true false)) (by decide) false false

lemma doubleRest_clean (folds : Bool) (indent : ℕ) (atStart : Bool) (pending : List Char)
    (text : Text) (pen : Pen) (allowed : MayHold pending) (clean : pen.IsClean) :
    (doubleRest folds indent atStart pending text pen).IsClean := by
  have flush : ∀ {pending : List Char} {pen : Pen}, MayHold pending → pen.IsClean →
      (pen.putChars pending.reverse).IsClean := fun allowed clean =>
    putChars_clean clean (allowed.subset fun _ mem => List.mem_reverse.mp mem)
  fun_induction doubleRest folds indent atStart pending text pen with
  | case1 atStart pending pen => exact flush allowed clean
  | case2 atStart pending c rest pen escaped pen₁ pending₁ _ _ breaks pen₂ pending₂ ih =>
      have clean₁ : pen₁.IsClean := (put_clean (flush allowed clean) (mayHold_escape c)).ite clean
      have allowed₁ : MayHold pending₁ := by
        unfold pending₁
        split
        · exact mayHold_nil
        · exact allowed
      have clean₂ : pen₂.IsClean := by
        have broken := settled_clean (indentTo_clean
          (put_clean (flush allowed₁ clean₁) (by decide : MayHold "\\".toList)) indent)
        exact ((put_clean broken (by decide)).ite broken).ite clean₁
      have allowed₂ : MayHold pending₂ := by
        unfold pending₂
        split
        · exact mayHold_nil
        · exact allowed₁
      refine ih ?_ clean₂
      split
      · exact mayHold_nil
      · next bare =>
          exact mayHold_cons.mpr ⟨isAllowed_of_unescaped (Bool.eq_false_iff.mpr bare), allowed₂⟩

/-- **Scalars between quotation marks** escape whatever a document may not hold. -/
lemma double_clean (clean : pen.IsClean) (folds : Bool) (indent : ℕ) (text : Text) :
    (pen.double folds indent text).IsClean :=
  indicator_clean (doubleRest_clean folds indent true [] text _ mayHold_nil
    (indicator_clean clean (by decide) true false)) (by decide) false false

/-- **Literal scalars** are written line by line. -/
lemma literal_clean (clean : pen.IsClean) (indent : ℕ) {lines : List (List Char)}
    (allowed : ∀ line ∈ lines, MayHold line) : (pen.literal indent lines).IsClean := by
  have started := lineBreak_clean (indicator_clean clean (by decide : MayHold "|".toList) true false)
    (by decide : isAllowed '\n')
  have lined : ∀ {lines : List (List Char)} {pen : Pen}, (∀ line ∈ lines, MayHold line) →
      pen.IsClean → (lines.foldl (fun pen line =>
        ((pen.indentTo indent).putChars line).lineBreak '\n') pen).IsClean := by
    intro lines
    induction lines with
    | nil => exact fun _ clean => clean
    | cons line rest ih =>
        intro pen allowed clean
        obtain ⟨first, rest_allowed⟩ := List.forall_mem_cons.mp allowed
        exact ih rest_allowed
          (lineBreak_clean (putChars_clean (indentTo_clean clean indent) first) (by decide))
  exact lined allowed started

end Pen

end ExternalFields.Yaml
