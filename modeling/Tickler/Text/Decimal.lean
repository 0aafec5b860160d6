/-!
# Decimal numbers

Numbers are written in base ten without a leading zero, or filled up with zeros
to a fixed width, and read from runs of the ten ASCII digits. A digit of another
script is not a digit here. Reading what was written gives the number back.
-/

namespace Tickler.Decimal

/-- The digits of a number, most significant first. -/
def digits (number : Nat) : List Char := Nat.toDigits 10 number

/-- The digits of a number behind as many zeros as it takes to fill a width. A
longer number is not cut. -/
def padded (width number : Nat) : List Char :=
  List.replicate (width - (digits number).length) '0' ++ digits number

/-- A signed number: a minus in front of a negative one, nothing otherwise. -/
def signed (number : Int) : List Char :=
  if number < 0 then '-' :: digits number.natAbs else digits number.natAbs

/-- The number that a run of digits denotes. -/
def value (run : List Char) : Nat := Nat.ofDigitChars 10 run 0

/-- A run of one to `longest` digits. -/
structure IsRun (longest : Nat) (run : List Char) : Prop where
  nonempty : run ≠ []
  short : run.length ≤ longest
  decimal : ∀ character ∈ run, character.isDigit = true

/-- Take a number off the front of a text: the first digits, one at least and
`longest` at most. -/
def lead? (longest : Nat) (text : List Char) : Option (Nat × List Char) :=
  let run := (text.take longest).takeWhile Char.isDigit
  if run = [] then none else some (value run, text.drop run.length)

/-- A number is read back from its digits. -/
theorem value_digits (number : Nat) : value (digits number) = number :=
  Nat.ofDigitChars_toDigits (by decide) (by decide)

/-- Zeros in front do not change a number. -/
theorem value_replicate_append (zeros : Nat) (run : List Char) :
    value (List.replicate zeros '0' ++ run) = value run := by
  simp only [value]
  rw [Nat.ofDigitChars_append, Nat.ofDigitChars_replicate_zero, Nat.mul_zero]

/-- A padded number is read back. -/
theorem value_padded (width number : Nat) : value (padded width number) = number :=
  (value_replicate_append _ _).trans (value_digits number)

/-- A run of digits denotes a number below the power of ten that has one digit more. -/
theorem value_lt {run : List Char} (decimal : ∀ character ∈ run, character.isDigit = true) :
    value run < Nat.pow 10 run.length := by
  induction run with
  | nil => decide
  | cons digit others inductionHypothesis =>
    obtain ⟨isDigit, behind⟩ := List.forall_mem_cons.mp decimal
    have small : digit.toNat - '0'.toNat ≤ 9 := by
      have upper : digit.toNat ≤ 57 := by
        simp only [Char.isDigit, Bool.and_eq_true, decide_eq_true_eq,
          UInt32.le_iff_toNat_le] at isDigit
        exact isDigit.2
      have zero : '0'.toNat = 48 := rfl
      omega
    have later : Nat.ofDigitChars 10 others 0 < Nat.pow 10 others.length :=
      inductionHypothesis behind
    have power : Nat.pow 10 (digit :: others).length = Nat.pow 10 others.length * 10 := rfl
    have leading := Nat.mul_le_mul_left (Nat.pow 10 others.length) small
    have split : value (digit :: others) =
        Nat.pow 10 others.length * (digit.toNat - '0'.toNat) + Nat.ofDigitChars 10 others 0 := by
      rw [value, Nat.ofDigitChars_cons, Nat.mul_zero, Nat.zero_add,
        Nat.ofDigitChars_eq_ofDigitChars_zero]
      rfl
    omega

/-- Every number has a digit. -/
theorem digits_ne_nil (number : Nat) : digits number ≠ [] :=
  Nat.toDigits_ne_nil

/-- A number is written with digits only. -/
theorem isDigit_of_mem_digits {number : Nat} {character : Char}
    (written : character ∈ digits number) : character.isDigit = true :=
  Nat.isDigit_of_mem_toDigits (by decide) (by decide) written

/-- No zero stands in front of the digits of a positive number. -/
theorem head?_digits {number : Nat} (positive : 0 < number) :
    (digits number).head? ≠ some '0' := by
  induction number using Nat.strongRecOn with
  | ind number inductionHypothesis =>
    by_cases small : number < 10
    · simp [digits, Nat.toDigits_of_lt_base small]
      omega
    · have leading := inductionHypothesis (number / 10) (by omega) (by omega)
      obtain ⟨digit, others, shown⟩ := List.exists_cons_of_ne_nil (digits_ne_nil (number / 10))
      rw [digits] at shown leading
      rw [digits, Nat.toDigits_of_base_le (by decide) (by omega), shown]
      simpa [shown] using leading

/-- A padded number is written with digits only. -/
theorem isDigit_of_mem_padded {width number : Nat} {character : Char}
    (written : character ∈ padded width number) : character.isDigit = true := by
  rcases List.mem_append.mp written with zero | digit
  · rw [List.eq_of_mem_replicate zero]
    rfl
  · exact isDigit_of_mem_digits digit

/-- A number below the power of ten that a width holds is padded to exactly that
width. -/
theorem length_padded {width number : Nat} (wide : 0 < width) (fits : number < Nat.pow 10 width) :
    (padded width number).length = width := by
  have short := (Nat.length_toDigits_le_iff (b := 10) (by decide) wide).mpr fits
  simp only [padded, digits]
  rw [List.length_append, List.length_replicate]
  omega

/-- A number that fits is padded to a run of its width. -/
theorem isRun_padded {width number : Nat} (wide : 0 < width) (fits : number < Nat.pow 10 width) :
    IsRun width (padded width number) where
  nonempty := by
    rw [← List.length_pos_iff, length_padded wide fits]
    exact wide
  short := Nat.le_of_eq (length_padded wide fits)
  decimal := fun _ written => isDigit_of_mem_padded written

/-- A run is taken off as a whole when no digit follows it. -/
theorem lead?_append {longest : Nat} {run rest : List Char} (isRun : IsRun longest run)
    (stopped : ∀ character ∈ rest.head?, character.isDigit = false) :
    lead? longest (run ++ rest) = some (value run, rest) := by
  have noMore : (rest.take (longest - run.length)).takeWhile Char.isDigit = [] := by
    cases rest with
    | nil => simp
    | cons character others =>
      cases longest - run.length <;> simp [stopped character rfl]
  have taken : ((run ++ rest).take longest).takeWhile Char.isDigit = run := by
    rw [List.take_append, List.take_of_length_le isRun.short,
      List.takeWhile_append_of_pos isRun.decimal, noMore, List.append_nil]
  simp [lead?, taken, isRun.nonempty]

/-- What is taken off is a run, and the rest is what stands behind it. -/
theorem exists_run_of_lead? {longest number : Nat} {text rest : List Char}
    (taken : lead? longest text = some (number, rest)) :
    ∃ run, IsRun longest run ∧ text = run ++ rest ∧ number = value run := by
  obtain ⟨others, split⟩ := (List.takeWhile_prefix (p := Char.isDigit)).trans
    (List.take_prefix longest text)
  have decimal : ∀ character ∈ (text.take longest).takeWhile Char.isDigit,
      character.isDigit = true := fun _ member => List.all_eq_true.mp List.all_takeWhile _ member
  have short : ((text.take longest).takeWhile Char.isDigit).length ≤ longest :=
    Nat.le_trans (List.takeWhile_prefix Char.isDigit).length_le (List.length_take_le longest text)
  simp only [lead?] at taken
  generalize (text.take longest).takeWhile Char.isDigit = run at split decimal short taken
  by_cases vacant : run = []
  · simp [vacant] at taken
  · simp only [vacant, if_false, Option.some.injEq, Prod.mk.injEq] at taken
    obtain ⟨rfl, rfl⟩ := taken
    exact ⟨run, ⟨vacant, short, decimal⟩, by simp [← split], rfl⟩

/-- Nothing is taken off a text that does not begin with a digit. -/
theorem lead?_eq_none {longest : Nat} {text : List Char}
    (other : ∀ character ∈ text.head?, character.isDigit = false) :
    lead? longest text = none := by
  cases text with
  | nil => simp [lead?]
  | cons character others => cases longest <;> simp [lead?, other character rfl]

end Tickler.Decimal
