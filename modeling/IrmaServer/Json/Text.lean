import IrmaServer.Messages
import Mathlib.Data.List.Basic

/-!
# JSON text

The pieces of Go's libraries that a protocol version's JSON form passes through: the string
encoder of `encoding/json` (`json.Marshal` of a string), `json.Unmarshal` into a string,
`strings.Split` on one character, and `strconv.Atoi` with `int` 64 bits wide. Each reader is
proved to undo its writer: a quoted string reads back as itself, and `strconv.Atoi` reads the
decimal form of every `int` back as the number.
-/

namespace IrmaServer

/-- A value of Go's `int` on a 64-bit platform. -/
def IsInt64 (x : Int) : Prop := -2 ^ 63 ≤ x ∧ x < 2 ^ 63

instance : DecidablePred IsInt64 := fun _ => inferInstanceAs (Decidable (_ ∧ _))

/-! ## Strings -/

def hexDigit (n : Nat) : Char := Nat.digitChar n

def hexValue (c : Char) : Option Nat :=
  if '0' ≤ c ∧ c ≤ '9' then some (c.toNat - '0'.toNat)
  else if 'a' ≤ c ∧ c ≤ 'f' then some (c.toNat - 'a'.toNat + 10)
  else if 'A' ≤ c ∧ c ≤ 'F' then some (c.toNat - 'A'.toNat + 10)
  else none

def hex4 (a b c d : Char) : Option Nat := do
  let a ← hexValue a
  let b ← hexValue b
  let c ← hexValue c
  let d ← hexValue d
  pure (((a * 16 + b) * 16 + c) * 16 + d)

/-- What `encodeState.string` writes for one character, with the HTML escaping `json.Marshal`
turns on: the quote and the backslash behind a backslash, three control characters by letter,
the other control characters and `<`, `>`, `&` as `\u00XX`, and the two line separators of
JavaScript as ` ` and ` `. -/
def escapeChar (c : Char) : List Char :=
  if c = '"' ∨ c = '\\' then ['\\', c]
  else if c = '\n' then ['\\', 'n']
  else if c = '\r' then ['\\', 'r']
  else if c = '\t' then ['\\', 't']
  else if c.toNat < 0x20 ∨ c = '<' ∨ c = '>' ∨ c = '&' then
    ['\\', 'u', '0', '0', hexDigit (c.toNat / 16), hexDigit (c.toNat % 16)]
  else if c.toNat = 0x2028 ∨ c.toNat = 0x2029 then ['\\', 'u', '2', '0', '2', hexDigit (c.toNat % 16)]
  else [c]

def quote (s : String) : String := ⟨'"' :: s.toList.flatMap escapeChar ++ ['"']⟩

def shortEscape : Char → Option Char
  | '"' => some '"'
  | '\\' => some '\\'
  | '/' => some '/'
  | 'b' => some (Char.ofNat 8)
  | 'f' => some (Char.ofNat 12)
  | 'n' => some '\n'
  | 'r' => some '\r'
  | 't' => some '\t'
  | _ => none

def replacementChar : Char := Char.ofNat 0xFFFD

def isHighSurrogate (u : Nat) : Bool := 0xD800 ≤ u && u < 0xDC00

def isSurrogate (u : Nat) : Bool := 0xD800 ≤ u && u < 0xE000

/-- The escape after a backslash in a JSON string literal, as the scanner checks it and
`unquote` decodes it: the character it stands for and the input after it. A `\u` escape of a
surrogate takes the next `\u` escape with it when the two make a pair (`utf16.DecodeRune`), and
stands for the replacement character otherwise. -/
def readEscape : List Char → Option (Char × List Char)
  | 'u' :: a :: b :: c :: d :: more =>
    (hex4 a b c d).map fun u =>
      if isSurrogate u then
        match more with
        | '\\' :: 'u' :: e :: f :: g :: h :: more' =>
          match hex4 e f g h with
          | some l =>
            if isHighSurrogate u ∧ isSurrogate l ∧ ¬isHighSurrogate l then
              (Char.ofNat ((u - 0xD800) * 0x400 + (l - 0xDC00) + 0x10000), more')
            else (replacementChar, more)
          | none => (replacementChar, more)
        | _ => (replacementChar, more)
      else (Char.ofNat u, more)
  | e :: more => (shortEscape e).map fun x => (x, more)
  | [] => none

theorem readEscape_length {cs more : List Char} {x : Char} (h : readEscape cs = some (x, more)) :
    more.length < cs.length := by
  unfold readEscape at h
  split at h
  · obtain ⟨u, -, read⟩ := Option.map_eq_some'.1 h
    repeat' split at read
    all_goals
      obtain ⟨-, rfl⟩ := Prod.mk.inj read
      simp only [List.length_cons]
      omega
  · obtain ⟨_, -, ⟨⟩⟩ := Option.map_eq_some'.1 h
    simp
  · cases h

def readString : List Char → Option (List Char × List Char)
  | [] => none
  | ch :: rest =>
    if ch = '"' then some ([], rest)
    else if ch = '\\' then
      match read : readEscape rest with
      | some (x, more) =>
        have := readEscape_length read
        (readString more).map fun (s, after) => (x :: s, after)
      | none => none
    else if ch.toNat < 0x20 then none
    else (readString rest).map fun (s, after) => (ch :: s, after)
termination_by cs => cs.length

def isJsonSpace (c : Char) : Bool := c = ' ' ∨ c = '\t' ∨ c = '\n' ∨ c = '\r'

/-- `json.Unmarshal(b, &str)` for a string `str` that starts empty: the string it leaves in
`str`, or `none` when it returns an error, for text that is not JSON or that holds a value of
another kind. `null` leaves `str` empty. -/
def unmarshalString (b : String) : Option String :=
  match b.toList.dropWhile isJsonSpace with
  | '"' :: body => (readString body).bind fun (s, rest) =>
      if rest.all isJsonSpace then some ⟨s⟩ else none
  | 'n' :: 'u' :: 'l' :: 'l' :: rest => if rest.all isJsonSpace then some "" else none
  | _ => none

theorem readString_closing (more : List Char) : readString ('"' :: more) = some ([], more) := by
  rw [readString]
  simp

theorem readString_escape {more rest : List Char} {x : Char} (read : readEscape more = some (x, rest)) :
    readString ('\\' :: more) = (readString rest).map fun (s, after) => (x :: s, after) := by
  rw [readString]
  simp only [if_neg (by decide : ('\\' : Char) ≠ '"'), if_true]
  split <;> simp_all

theorem readString_plain {c : Char} (more : List Char) (quote : c ≠ '"') (backslash : c ≠ '\\')
    (printable : 0x20 ≤ c.toNat) :
    readString (c :: more) = (readString more).map fun (s, after) => (c :: s, after) := by
  rw [readString]
  simp [quote, backslash, printable]

theorem hexValue_hexDigit : ∀ n < 16, hexValue (hexDigit n) = some n := by decide

theorem readEscape_unicode {a b c d : Char} {x : Char} (more : List Char)
    (hex : hex4 a b c d = some x.toNat) (single : x.toNat < 0xD800 ∨ 0xE000 ≤ x.toNat) :
    readEscape ('u' :: a :: b :: c :: d :: more) = some (x, more) := by
  have : isSurrogate x.toNat = false := by
    simp only [isSurrogate, Bool.and_eq_false_iff, decide_eq_false_iff_not, not_le, not_lt]
    omega
  rw [readEscape, hex, Option.map_some', this]
  simp only [Bool.false_eq_true, if_false, Char.ofNat_toNat]

theorem readString_escapeChar (c : Char) (more : List Char) :
    readString (escapeChar c ++ more) = (readString more).map fun (s, after) => (c :: s, after) := by
  by_cases special : c = '"' ∨ c = '\\'
  · rcases special with rfl | rfl <;> exact readString_escape rfl
  by_cases newline : c = '\n'
  · subst newline; exact readString_escape rfl
  by_cases cr : c = '\r'
  · subst cr; exact readString_escape rfl
  by_cases tab : c = '\t'
  · subst tab; exact readString_escape rfl
  by_cases short : c.toNat < 0x20 ∨ c = '<' ∨ c = '>' ∨ c = '&'
  · have byte : c.toNat < 0x100 := by
      rcases short with low | rfl | rfl | rfl
      · omega
      all_goals decide
    rw [escapeChar, if_neg special, if_neg newline, if_neg cr, if_neg tab, if_pos short]
    refine readString_escape (readEscape_unicode (x := c) more ?_ (.inl (by omega)))
    simp only [hex4, hexValue_hexDigit _ (by omega : c.toNat / 16 < 16),
      hexValue_hexDigit _ (Nat.mod_lt _ (by omega))]
    show some (((0 * 16 + 0) * 16 + c.toNat / 16) * 16 + c.toNat % 16) = some c.toNat
    congr 1
    omega
  rw [escapeChar, if_neg special, if_neg newline, if_neg cr, if_neg tab, if_neg short]
  split
  next separator =>
    refine readString_escape (readEscape_unicode (x := c) more ?_ (.inl (by omega)))
    rcases separator with line | paragraph
    · rw [line]; rfl
    · rw [paragraph]; rfl
  · simp only [not_or, not_lt] at special short
    exact readString_plain more special.1 special.2 short.1

theorem readString_escaped (s more : List Char) :
    readString (s.flatMap escapeChar ++ '"' :: more) = some (s, more) := by
  induction s with
  | nil => exact readString_closing more
  | cons c s ih => rw [List.flatMap_cons, List.append_assoc, readString_escapeChar, ih]; rfl

theorem unmarshalString_quote (s : String) : unmarshalString (quote s) = some s := by
  have text : (quote s).toList.dropWhile isJsonSpace = '"' :: (s.toList.flatMap escapeChar ++ ['"']) :=
    List.dropWhile_cons_of_neg (by decide)
  rw [unmarshalString, text]
  show (readString (s.toList.flatMap escapeChar ++ ['"'])).bind _ = _
  rw [readString_escaped]
  rfl

/-! ## `strings.Split` -/

def splitOn (sep : Char) : List Char → List (List Char)
  | [] => [[]]
  | c :: cs => if c = sep then [] :: splitOn sep cs else (splitOn sep cs).modifyHead (c :: ·)

theorem splitOn_of_not_mem {sep : Char} {cs : List Char} (h : sep ∉ cs) : splitOn sep cs = [cs] := by
  induction cs with
  | nil => rfl
  | cons c cs ih =>
    simp only [List.mem_cons, not_or] at h
    simp [splitOn, Ne.symm h.1, ih h.2]

theorem splitOn_append {sep : Char} {xs ys : List Char} (h : sep ∉ xs) :
    splitOn sep (xs ++ sep :: ys) = xs :: splitOn sep ys := by
  induction xs with
  | nil => simp [splitOn]
  | cons x xs ih =>
    simp only [List.mem_cons, not_or] at h
    simp [splitOn, Ne.symm h.1, ih h.2]

/-! ## `strconv.Atoi` -/

inductive NumErr
  | errSyntax
  | errRange
  deriving DecidableEq, Repr

structure NumError where
  func : String
  num : String
  err : NumErr
  deriving DecidableEq, Repr

def digitsValue (ds : List Char) : Nat := ds.foldl (fun n c => 10 * n + (c.toNat - '0'.toNat)) 0

def readSign : List Char → Bool × List Char
  | '+' :: ds => (false, ds)
  | '-' :: ds => (true, ds)
  | ds => (false, ds)

/-- `strconv.Atoi` with `int` 64 bits wide: an optional sign and at least one decimal digit, for
a value in range. An input with an overflowing prefix and a later non-digit is reported as a
syntax error here, where Go reports the error it meets first. -/
def atoi (s : String) : Except NumError Int :=
  let signed := readSign s.toList
  if signed.2.isEmpty || !signed.2.all Char.isDigit then .error ⟨"Atoi", s, .errSyntax⟩
  else
    let v : Int := if signed.1 then -(digitsValue signed.2 : Int) else digitsValue signed.2
    if IsInt64 v then .ok v else .error ⟨"Atoi", s, .errRange⟩

theorem digitChar_isDigit : ∀ n < 10, (Nat.digitChar n).isDigit = true := by decide

theorem digitChar_toNat : ∀ n < 10, (Nat.digitChar n).toNat = '0'.toNat + n := by decide

theorem toDigitsCore_succ (fuel n : Nat) (ds : List Char) :
    Nat.toDigitsCore 10 (fuel + 1) n ds =
      if n / 10 = 0 then Nat.digitChar (n % 10) :: ds
      else Nat.toDigitsCore 10 fuel (n / 10) (Nat.digitChar (n % 10) :: ds) := rfl

theorem toDigitsCore_digits (fuel n : Nat) (ds : List Char) (enough : n < fuel) :
    ∃ pre, Nat.toDigitsCore 10 fuel n ds = pre ++ ds ∧ pre ≠ [] ∧ pre.all Char.isDigit ∧
      digitsValue pre = n := by
  induction fuel generalizing n ds with
  | zero => omega
  | succ fuel ih =>
    have digit := digitChar_isDigit (n % 10) (Nat.mod_lt _ (by omega))
    have value := digitChar_toNat (n % 10) (Nat.mod_lt _ (by omega))
    by_cases last : n / 10 = 0
    · refine ⟨[Nat.digitChar (n % 10)], by simp [toDigitsCore_succ, last], by simp, by simp [digit], ?_⟩
      simp only [digitsValue, List.foldl, value]
      omega
    · obtain ⟨pre, core, nonempty, digits, prefixValue⟩ :=
        ih (n / 10) (Nat.digitChar (n % 10) :: ds) (by omega)
      refine ⟨pre ++ [Nat.digitChar (n % 10)], by simp [toDigitsCore_succ, last, core], by simp,
        by simp [digits, digit], ?_⟩
      simp only [digitsValue, List.foldl_append, List.foldl] at prefixValue ⊢
      rw [prefixValue, value]
      omega

theorem toDigits_digits (n : Nat) :
    ∃ d rest, Nat.toDigits 10 n = d :: rest ∧ (d :: rest).all Char.isDigit ∧
      digitsValue (d :: rest) = n := by
  obtain ⟨pre, core, nonempty, digits, value⟩ := toDigitsCore_digits (n + 1) n [] (by omega)
  obtain ⟨d, rest, rfl⟩ := List.exists_cons_of_ne_nil nonempty
  exact ⟨d, rest, by simpa using core, digits, value⟩

theorem toList_toString_ofNat (n : Nat) : (toString (Int.ofNat n)).toList = Nat.toDigits 10 n := rfl

theorem toList_toString_negSucc (n : Nat) :
    (toString (Int.negSucc n)).toList = '-' :: Nat.toDigits 10 (n + 1) := rfl

theorem dot_not_mem_toString (x : Int) : '.' ∉ (toString x).toList := by
  have digitsOnly : ∀ n, '.' ∉ Nat.toDigits 10 n := fun n mem => by
    obtain ⟨d, rest, core, digits, -⟩ := toDigits_digits n
    rw [core] at mem
    exact absurd (List.all_eq_true.1 digits _ mem) (by decide)
  cases x with
  | ofNat n => exact digitsOnly n
  | negSucc n =>
    rw [toList_toString_negSucc, List.mem_cons, not_or]
    exact ⟨by decide, digitsOnly _⟩

theorem atoi_toString {x : Int} (fits : IsInt64 x) : atoi (toString x) = .ok x := by
  cases x with
  | ofNat n =>
    obtain ⟨d, rest, core, digits, value⟩ := toDigits_digits n
    have unsigned : readSign (d :: rest) = (false, d :: rest) := by
      have : d.isDigit = true := by simp_all
      unfold readSign
      split <;> simp_all
    simp only [atoi, toList_toString_ofNat, core, unsigned]
    simp [digits, value]
    exact fits
  | negSucc n =>
    obtain ⟨d, rest, core, digits, value⟩ := toDigits_digits (n + 1)
    simp only [atoi, toList_toString_negSucc, core, readSign, List.isEmpty_cons, digits,
      Bool.not_true, Bool.or_false, Bool.false_eq_true, if_false, value, if_true]
    rw [if_pos (by simpa [Int.negSucc_eq] using fits)]
    simp [Int.negSucc_eq]

end IrmaServer
