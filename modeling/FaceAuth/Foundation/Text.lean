import Mathlib.Data.List.Basic

/-!
# Lines and numbers in a text

The lines of a text, a text without the blanks around it, and signed decimal numbers.
-/

namespace Foundation

namespace Text

/-- A carriage return at the end belongs to the end of the line. -/
def stripReturn (line : List Char) : List Char :=
  if line.getLast? = some '\r' then line.dropLast else line

/-- The lines of a text of which one has begun. -/
def linesFrom (line : List Char) : List Char → List (List Char)
  | [] => if line = [] then [] else [line]
  | letter :: rest =>
      if letter = '\n' then stripReturn line :: linesFrom [] rest
      else linesFrom (line ++ [letter]) rest

/-- The lines of a text. -/
def lines (text : List Char) : List (List Char) := linesFrom [] text

/-- The blanks of Unicode. -/
def isBlank (letter : Char) : Bool :=
  let code := letter.toNat
  (9 ≤ code && code ≤ 13) || code == 32 || code == 0x85 || code == 0xA0 || code == 0x1680 ||
    (0x2000 ≤ code && code ≤ 0x200A) || code == 0x2028 || code == 0x2029 || code == 0x202F ||
    code == 0x205F || code == 0x3000

/-- The text without blanks at its ends. -/
def trim (text : List Char) : List Char :=
  ((text.dropWhile isBlank).reverse.dropWhile isBlank).reverse

/-- One or more digits. -/
def parseDigits (text : List Char) : Option Nat :=
  if text ≠ [] ∧ text.all Char.isDigit = true then some (Nat.ofDigitChars 10 text 0) else none

/-- The largest signed number of 64 bits. -/
def I64_MAX : Nat := 0x7FFFFFFFFFFFFFFF

/-- A signed number of sixty-four bits. -/
def parseI64 : List Char → Option Int
  | '-' :: digits =>
      (parseDigits digits).bind fun value =>
        if value ≤ I64_MAX + 1 then some (-(value : Int)) else none
  | '+' :: digits =>
      (parseDigits digits).bind fun value => if value ≤ I64_MAX then some (value : Int) else none
  | digits =>
      (parseDigits digits).bind fun value => if value ≤ I64_MAX then some (value : Int) else none

/-- A line up to its end comes first. -/
theorem linesFrom_line {line rest : List Char} (begun : List Char) (one : '\n' ∉ line) :
    linesFrom begun (line ++ '\n' :: rest) = stripReturn (begun ++ line) :: lines rest := by
  induction line generalizing begun with
  | nil => simp [linesFrom, lines]
  | cons letter line ih =>
      have other : letter ≠ '\n' := fun same => one (same ▸ List.mem_cons_self)
      have later : '\n' ∉ line := fun member => one (List.mem_cons_of_mem _ member)
      rw [List.cons_append, linesFrom, if_neg other, ih _ later, List.append_assoc]
      rfl

/-- The lines of a text that goes on after some lines. -/
theorem lines_append {header : List (List Char)} {rest : List Char}
    (plain : ∀ line ∈ header, '\n' ∉ line) :
    lines ((header.map (· ++ ['\n'])).flatten ++ rest) =
      header.map stripReturn ++ lines rest := by
  induction header with
  | nil => rfl
  | cons line header ih =>
      have first := @linesFrom_line line ((header.map (· ++ ['\n'])).flatten ++ rest) []
        (plain line List.mem_cons_self)
      have others := ih fun line member => plain line (List.mem_cons_of_mem _ member)
      simp only [List.map_cons, List.flatten_cons, List.append_assoc, List.cons_append,
        List.nil_append]
      rw [lines, first, others]
      rfl

/-- A line without its return begins it. -/
theorem stripReturn_prefix (line : List Char) : stripReturn line <+: line := by
  unfold stripReturn
  split
  · exact List.dropLast_prefix line
  · exact List.prefix_rfl

/-- A digit is no blank. -/
theorem isBlank_of_isDigit {letter : Char} (digit : letter.isDigit = true) :
    isBlank letter = false := by
  have bounds : 48 ≤ letter.toNat ∧ letter.toNat ≤ 57 := by
    simp only [Char.isDigit, ge_iff_le, Bool.and_eq_true, decide_eq_true_eq,
      UInt32.le_iff_toNat_le] at digit
    exact digit
  simp only [isBlank, Bool.or_eq_false_iff, Bool.and_eq_false_iff, beq_eq_false_iff_ne,
    decide_eq_false_iff_not]
  omega

/-- A text without blanks, after some blanks. -/
theorem trim_append {blanks text : List Char} (before : ∀ letter ∈ blanks, isBlank letter = true)
    (solid : ∀ letter ∈ text, isBlank letter = false) : trim (blanks ++ text) = text := by
  have kept : ∀ text : List Char, (∀ letter ∈ text, isBlank letter = false) →
      text.dropWhile isBlank = text := by
    intro text solid
    cases text with
    | nil => rfl
    | cons letter text =>
        rw [List.dropWhile_cons_of_neg]
        simp [solid letter List.mem_cons_self]
  have dropped : (blanks ++ text).dropWhile isBlank = text := by
    rw [List.dropWhile_append_of_pos before, kept text solid]
  rw [trim, dropped, kept text.reverse, List.reverse_reverse]
  exact fun letter member => solid letter (List.mem_reverse.mp member)

/-- The digits of a number are no blanks. -/
theorem isBlank_of_mem_toDigits {value : Nat} {letter : Char}
    (member : letter ∈ Nat.toDigits 10 value) : isBlank letter = false :=
  isBlank_of_isDigit (Nat.isDigit_of_mem_toDigits (by decide) (by decide) member)

/-- A line that ends in no blank is kept whole. -/
theorem stripReturn_append {line text : List Char} (some : text ≠ [])
    (solid : ∀ letter ∈ text, isBlank letter = false) :
    stripReturn (line ++ text) = line ++ text := by
  unfold stripReturn
  rw [if_neg]
  intro last
  rw [List.getLast?_append_of_ne_nil _ some] at last
  exact absurd (solid '\r' (List.mem_of_getLast? last)) (by decide)

/-- A number is read back from its digits. -/
theorem parseDigits_toDigits (value : Nat) : parseDigits (Nat.toDigits 10 value) = some value := by
  unfold parseDigits
  rw [if_pos, Nat.ofDigitChars_ten_toDigits]
  refine ⟨Nat.toDigits_ne_nil, List.all_eq_true.mpr fun letter member => ?_⟩
  exact Nat.isDigit_of_mem_toDigits (by decide) (by decide) member

/-- So it is as a signed one, if it fits. -/
theorem parseI64_toDigits (value : Nat) :
    parseI64 (Nat.toDigits 10 value) = if value ≤ I64_MAX then some (value : Int) else none := by
  have digits : ∀ letter ∈ Nat.toDigits 10 value, letter.isDigit = true :=
    fun letter member => Nat.isDigit_of_mem_toDigits (by decide) (by decide) member
  have parsed := parseDigits_toDigits value
  unfold parseI64
  split
  · next same =>
      have minus := digits '-' (same ▸ List.mem_cons_self)
      exact absurd minus (by decide)
  · next same =>
      have plus := digits '+' (same ▸ List.mem_cons_self)
      exact absurd plus (by decide)
  · rw [parsed, Option.bind_some]

end Text

end Foundation
