import SizedFace.Text.Printable
import SizedFace.Text.Utf8

namespace SizedFace.Text

def hexDigits (n : Nat) : String := String.ofList (Nat.toDigits 16 n)

/-- A number in base sixteen, padded with zeros to `width` digits. -/
def hexPadded (width n : Nat) : String :=
  let digits := Nat.toDigits 16 n
  String.ofList (List.replicate (width - digits.length) '0' ++ digits)

theorem toList_hexPadded_two {n : Nat} (small : n < 256) :
    (hexPadded 2 n).toList = [Nat.digitChar (n / 16), Nat.digitChar (n % 16)] := by
  unfold hexPadded
  rw [String.toList_ofList]
  by_cases single : n < 16
  · rw [Nat.toDigits_of_lt_base single, Nat.div_eq_of_lt single, Nat.mod_eq_of_lt single]
    rfl
  · have high : n / 16 < 16 := by omega
    rw [Nat.toDigits_of_base_le (by decide) (by omega), Nat.toDigits_of_lt_base high]
    rfl

/-- A character inside quotes. A double quote and a backslash carry a backslash. -/
def escapeChar (c : Char) : String :=
  if c = '\x00' then "\\0"
  else if c = '\t' then "\\t"
  else if c = '\r' then "\\r"
  else if c = '\n' then "\\n"
  else if c = '\\' || c = '"' then String.ofList ['\\', c]
  else if isExtender c || !isPrintable c then "\\u\x7b" ++ hexDigits c.toNat ++ "\x7d"
  else String.singleton c

def escapeByte (b : UInt8) : String := "\\x" ++ (hexPadded 2 b.toNat).toUpper

def quoteBytes (bytes : List UInt8) : String :=
  "\"" ++ String.join ((pieces bytes).map fun
    | .char c => escapeChar c
    | .stray run => String.join (run.map escapeByte)) ++ "\""

end SizedFace.Text
