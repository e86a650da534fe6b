import PoolPricing.Text.Numeral
import Mathlib.Data.List.DropRight
import Mathlib.Data.Nat.Digits.Defs
set_option autoImplicit false

/-!
How a whole number is written: blanks, a sign at most, digits of whatever scripts with single
underscores between two of them, blanks again. Every text that writes a number so is read as that
number, and no other text is read as any (`integer?_eq_some_iff`).
-/

namespace PoolPricing.Text

/-- The character is the digit of this value in some script. -/
def IsDigit (c : Char) (value : Nat) : Prop :=
  ∃ z ∈ digitZeros, value < 10 ∧ c.toNat = z + value

/-- Digits and their values, the highest first. An underscore may stand between two of them. -/
inductive Numeral : List Char → List Nat → Prop where
  | single {c : Char} {value : Nat} (digit : IsDigit c value) : Numeral [c] [value]
  | joined {c : Char} {value : Nat} {cs : List Char} {values : List Nat} (digit : IsDigit c value)
      (rest : Numeral cs values) : Numeral (c :: cs) (value :: values)
  | underscored {c : Char} {value : Nat} {cs : List Char} {values : List Nat}
      (digit : IsDigit c value) (rest : Numeral cs values) :
      Numeral (c :: '_' :: cs) (value :: values)

inductive Sign : List Char → Int → Prop where
  | absent : Sign [] 1
  | plus : Sign ['+'] 1
  | minus : Sign ['-'] (-1)

/-- The text writes the number, to the base ten. -/
inductive Writes : List Char → Int → Prop where
  | intro {before sign numeral after : List Char} {unit : Int} {values : List Nat}
      (blankBefore : ∀ c ∈ before, isBlank c = true) (signed : Sign sign unit)
      (written : Numeral numeral values) (blankAfter : ∀ c ∈ after, isBlank c = true) :
      Writes (before ++ (sign ++ numeral) ++ after) (unit * Nat.ofDigits 10 values.reverse)

section Digits

theorem eq_of_digits_overlap :
    ∀ z ∈ digitZeros, ∀ other ∈ digitZeros, z < other + 10 → other < z + 10 →
      z = other := by
  decide +kernel

theorem digitValue_eq_some_iff {c : Char} {value : Nat} :
    digitValue c = some value ↔ IsDigit c value := by
  constructor
  · intro h
    obtain ⟨z, hfound, rfl⟩ := Option.map_eq_some_iff.mp h
    have hrange := List.find?_some hfound
    simp only [Bool.and_eq_true, decide_eq_true_eq] at hrange
    exact ⟨z, List.mem_of_find?_eq_some hfound, by omega, by omega⟩
  · rintro ⟨z, hzero, hvalue, hc⟩
    cases hfound : digitZeros.find? fun start => start ≤ c.toNat && c.toNat < start + 10 with
    | none =>
      have := List.find?_eq_none.mp hfound z hzero
      simp only [Bool.and_eq_true, decide_eq_true_eq] at this
      omega
    | some other =>
      have hrange := List.find?_some hfound
      simp only [Bool.and_eq_true, decide_eq_true_eq] at hrange
      obtain rfl := eq_of_digits_overlap z hzero other (List.mem_of_find?_eq_some hfound)
        (by omega) (by omega)
      rw [digitValue, hfound, Option.map_some, hc, Nat.add_sub_cancel_left]

theorem isBlank_of_isDigit {c : Char} {value : Nat} (h : IsDigit c value) : isBlank c = false := by
  have hapart : ∀ z ∈ digitZeros, ∀ range ∈ blankRanges,
      z + 10 ≤ range.1 ∨ range.2 < z := by decide +kernel
  obtain ⟨z, hzero, hvalue, hc⟩ := h
  rw [Bool.eq_false_iff]
  intro hblank
  obtain ⟨range, hrange, hlow, hhigh⟩ := (inRanges_iff _ _).mp hblank
  have := hapart z hzero range hrange
  omega

theorem ne_of_isDigit {c other : Char} {value : Nat} (h : IsDigit c value)
    (hother : digitValue other = none) : c ≠ other := by
  rintro rfl
  rw [digitValue_eq_some_iff.mpr h] at hother
  contradiction

end Digits

section Reading

def appendDigit (n digit : Nat) : Nat := 10 * n + digit

theorem foldl_appendDigit (values : List Nat) :
    values.foldl appendDigit 0 = Nat.ofDigits 10 values.reverse := by
  rw [Nat.ofDigits_eq_foldr, List.foldr_reverse]
  congr 1
  funext n digit
  exact Nat.add_comm (10 * n) digit

section

variable {c : Char} {digit : Nat} (h : IsDigit c digit) (value : Nat) (cs : List Char)
include h

theorem naturalFrom_digit :
    naturalFrom value (c :: cs) = naturalFrom (appendDigit value digit) cs := by
  rw [naturalFrom, digitValue_eq_some_iff.mpr h, Option.bind_some, appendDigit]
  rintro _ _ hunderscore _
  exact ne_of_isDigit h (by decide) hunderscore

theorem naturalFrom_underscore :
    naturalFrom value ('_' :: c :: cs) = naturalFrom (appendDigit value digit) cs := by
  rw [naturalFrom, digitValue_eq_some_iff.mpr h, Option.bind_some, appendDigit]

end

theorem naturalFrom_of_numeral {cs : List Char} {values : List Nat} (h : Numeral cs values)
    (value : Nat) :
    naturalFrom value cs = some (values.foldl appendDigit value) ∧
      naturalFrom value ('_' :: cs) = some (values.foldl appendDigit value) := by
  induction h generalizing value with
  | single digit =>
    rw [naturalFrom_underscore digit, naturalFrom_digit digit]
    exact ⟨rfl, rfl⟩
  | joined digit _ ih =>
    rw [naturalFrom_underscore digit, naturalFrom_digit digit]
    exact ⟨(ih _).1, (ih _).1⟩
  | underscored digit _ ih =>
    rw [naturalFrom_underscore digit, naturalFrom_digit digit]
    exact ⟨(ih _).2, (ih _).2⟩

theorem numeral_of_naturalFrom {c : Char} {digit : Nat} (hdigit : IsDigit c digit)
    {value : Nat} {cs : List Char} {n : Nat} (h : naturalFrom value cs = some n) :
    ∃ values, Numeral (c :: cs) (digit :: values) ∧ values.foldl appendDigit value = n := by
  fun_induction naturalFrom value cs generalizing c digit with
  | case1 value => exact ⟨[], .single hdigit, Option.some.inj h⟩
  | case2 value next rest ih =>
    obtain ⟨following, hnext, hrest⟩ := Option.bind_eq_some_iff.mp h
    obtain ⟨values, hnumeral, hvalue⟩ := ih following (digitValue_eq_some_iff.mp hnext) hrest
    exact ⟨following :: values, .underscored hdigit hnumeral, hvalue⟩
  | case3 value next rest _ ih =>
    obtain ⟨following, hnext, hrest⟩ := Option.bind_eq_some_iff.mp h
    obtain ⟨values, hnumeral, hvalue⟩ := ih following (digitValue_eq_some_iff.mp hnext) hrest
    exact ⟨following :: values, .joined hdigit hnumeral, hvalue⟩

theorem Numeral.exists_head {cs : List Char} {values : List Nat} (h : Numeral cs values) :
    ∃ c rest digit, cs = c :: rest ∧ IsDigit c digit := by
  cases h with
  | single digit => exact ⟨_, _, _, rfl, digit⟩
  | joined digit _ => exact ⟨_, _, _, rfl, digit⟩
  | underscored digit _ => exact ⟨_, _, _, rfl, digit⟩

theorem natural?_of_numeral {cs : List Char} {values : List Nat} (h : Numeral cs values) :
    natural? cs = some (Nat.ofDigits 10 values.reverse) := by
  obtain ⟨c, rest, digit, rfl, hdigit⟩ := h.exists_head
  have hread := (naturalFrom_of_numeral h 0).1
  rw [naturalFrom_digit hdigit, appendDigit, Nat.mul_zero, Nat.zero_add] at hread
  rw [natural?, digitValue_eq_some_iff.mpr hdigit, Option.bind_some, hread, foldl_appendDigit]

theorem natural?_eq_some_iff {cs : List Char} {n : Nat} :
    natural? cs = some n ↔ ∃ values, Numeral cs values ∧ Nat.ofDigits 10 values.reverse = n := by
  constructor
  · intro h
    cases cs with
    | nil => contradiction
    | cons c rest =>
      obtain ⟨digit, hdigit, hrest⟩ := Option.bind_eq_some_iff.mp h
      obtain ⟨values, hnumeral, hvalue⟩ :=
        numeral_of_naturalFrom (digitValue_eq_some_iff.mp hdigit) hrest
      refine ⟨digit :: values, hnumeral, ?_⟩
      rw [← foldl_appendDigit, List.foldl_cons, appendDigit, Nat.mul_zero, Nat.zero_add, hvalue]
  · rintro ⟨values, hnumeral, rfl⟩
    exact natural?_of_numeral hnumeral

end Reading

section Trimming

theorem exists_trim (cs : List Char) :
    ∃ before after, (∀ c ∈ before, isBlank c = true) ∧ (∀ c ∈ after, isBlank c = true) ∧
      cs = before ++ trim cs ++ after := by
  refine ⟨cs.takeWhile isBlank, (cs.dropWhile isBlank).rtakeWhile isBlank,
    fun c => List.mem_takeWhile_imp, fun c => List.mem_rtakeWhile_imp, ?_⟩
  calc cs = cs.takeWhile isBlank ++ cs.dropWhile isBlank := List.takeWhile_append_dropWhile.symm
    _ = cs.takeWhile isBlank ++ (trim cs ++ (cs.dropWhile isBlank).rtakeWhile isBlank) :=
        congrArg _ (List.rdropWhile_append_rtakeWhile).symm
    _ = _ := (List.append_assoc _ _ _).symm

variable {before middle after : List Char}

theorem dropWhile_blank_append (hne : middle ≠ []) (h : ∀ c ∈ middle, isBlank c = false) :
    (middle ++ after).dropWhile isBlank = middle ++ after := by
  cases middle with
  | nil => contradiction
  | cons c rest => exact List.dropWhile_cons_of_neg (by simp [h c])

theorem trim_of_blanks (hne : middle ≠ []) (hbefore : ∀ c ∈ before, isBlank c = true)
    (hmiddle : ∀ c ∈ middle, isBlank c = false) (hafter : ∀ c ∈ after, isBlank c = true) :
    trim (before ++ middle ++ after) = middle := by
  have hback : ((middle ++ after).reverse.dropWhile isBlank).reverse = middle := by
    rw [List.reverse_append, List.dropWhile_append_of_pos (by simpa using hafter),
      ← List.append_nil middle.reverse,
      dropWhile_blank_append (by simpa using hne) (by simpa using hmiddle), List.append_nil,
      List.reverse_reverse]
  rw [trim, List.append_assoc, List.dropWhile_append_of_pos hbefore,
    dropWhile_blank_append hne hmiddle, hback]

end Trimming

theorem Numeral.not_blank {cs : List Char} {values : List Nat} (h : Numeral cs values) :
    ∀ c ∈ cs, isBlank c = false := by
  induction h with
  | single digit => simpa using isBlank_of_isDigit digit
  | joined digit _ ih => simpa using ⟨isBlank_of_isDigit digit, ih⟩
  | underscored digit _ ih => simpa using ⟨isBlank_of_isDigit digit, by decide, ih⟩

theorem Sign.not_blank {cs : List Char} {unit : Int} (h : Sign cs unit) :
    ∀ c ∈ cs, isBlank c = false := by
  cases h with
  | absent => simp
  | plus => simpa using (by decide : isBlank '+' = false)
  | minus => simpa using (by decide : isBlank '-' = false)

theorem integer?_of_trim {text sign numeral : List Char} {unit : Int} {values : List Nat}
    (htrim : trim text = sign ++ numeral) (hsign : Sign sign unit)
    (hnumeral : Numeral numeral values) :
    integer? text = some (unit * Nat.ofDigits 10 values.reverse) := by
  have hread := natural?_of_numeral hnumeral
  rw [integer?, htrim]
  cases hsign with
  | absent =>
    obtain ⟨c, rest, digit, rfl, hdigit⟩ := hnumeral.exists_head
    rw [List.nil_append]
    split
    · next hminus => exact absurd (List.cons.inj hminus).1 (ne_of_isDigit hdigit (by decide))
    · next hplus => exact absurd (List.cons.inj hplus).1 (ne_of_isDigit hdigit (by decide))
    · simp [hread, Nat.coe_ofDigits]
  | plus => simp [hread, Nat.coe_ofDigits]
  | minus => simp [hread, Nat.coe_ofDigits]

theorem exists_numeral_of_map {cs : List Char} {signed : Int → Int} {n : Int}
    (h : ((natural? cs : Option Int).map signed) = some n) :
    ∃ values, Numeral cs values ∧ signed (Nat.ofDigits 10 values.reverse) = n := by
  cases hread : natural? cs with
  | none => simp [hread] at h
  | some m =>
    obtain ⟨values, hnumeral, rfl⟩ := natural?_eq_some_iff.mp hread
    exact ⟨values, hnumeral, by simpa [hread, Nat.coe_ofDigits] using h⟩

theorem trim_of_integer? {text : List Char} {n : Int} (h : integer? text = some n) :
    ∃ sign numeral unit values, trim text = sign ++ numeral ∧ Sign sign unit ∧
      Numeral numeral values ∧ unit * Nat.ofDigits 10 values.reverse = n := by
  unfold integer? at h
  split at h
  · next rest htrim =>
    obtain ⟨values, hnumeral, rfl⟩ := exists_numeral_of_map h
    exact ⟨['-'], rest, -1, values, htrim, .minus, hnumeral, by simp⟩
  · next rest htrim =>
    obtain ⟨values, hnumeral, rfl⟩ := exists_numeral_of_map h
    exact ⟨['+'], rest, 1, values, htrim, .plus, hnumeral, by simp⟩
  · obtain ⟨values, hnumeral, rfl⟩ := exists_numeral_of_map h
    exact ⟨[], trim text, 1, values, rfl, .absent, hnumeral, by simp⟩

/-- A text is read as a number just where it writes that number. -/
theorem integer?_eq_some_iff {text : List Char} {n : Int} :
    integer? text = some n ↔ Writes text n := by
  constructor
  · intro h
    obtain ⟨sign, numeral, unit, values, htrim, hsign, hnumeral, rfl⟩ := trim_of_integer? h
    obtain ⟨before, after, hbefore, hafter, htext⟩ := exists_trim text
    rw [htext, htrim]
    exact .intro hbefore hsign hnumeral hafter
  · rintro ⟨hbefore, hsign, hnumeral, hafter⟩
    obtain ⟨c, rest, _, rfl, _⟩ := hnumeral.exists_head
    refine integer?_of_trim (trim_of_blanks (by simp) hbefore (fun c hc => ?_) hafter)
      hsign hnumeral
    obtain hc | hc := List.mem_append.mp hc
    · exact hsign.not_blank c hc
    · exact hnumeral.not_blank c hc

theorem not_writes_of_blank {text : List Char} (h : ∀ c ∈ text, isBlank c = true) (n : Int) :
    ¬Writes text n := by
  rintro ⟨_, _, hnumeral, _⟩
  obtain ⟨c, rest, _, rfl, hdigit⟩ := hnumeral.exists_head
  have hblank := h c (by simp)
  rw [isBlank_of_isDigit hdigit] at hblank
  contradiction

end PoolPricing.Text
