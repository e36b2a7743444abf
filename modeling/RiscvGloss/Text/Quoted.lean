import RiscvGloss.Text.Printable

/-! Quoted text: between double quotes, with escapes for what would not show or would end the
quotation early. `encode` writes the inside of the quotes and `decode` reads it back up to the
closing quote. -/

namespace RiscvGloss.Text.Quoted

/-- The characters with an escape of their own, each with the letter that follows the backslash. -/
def shortEscapes : List (Char × Char) :=
  [('\x00', '0'), ('\t', 't'), ('\r', 'r'), ('\n', 'n'), ('"', '"'), ('\\', '\\')]

/-- A character by its code point, in hexadecimal between braces. -/
def codePoint (c : Char) : List Char :=
  ['u', '\x7b'] ++ Nat.toDigits 16 c.toNat ++ ['\x7d']

/-- A character inside quotes. Those without an escape of their own stand as they are if `plain`
holds of them, and are written by code point otherwise. -/
def encodeChar (plain : Char → Bool) (c : Char) : List Char :=
  match shortEscapes.lookup c with
  | some mark => ['\\', mark]
  | none => if plain c then [c] else '\\' :: codePoint c

/-- A text inside quotes. -/
def encode (plain : Char → Bool) (cs : List Char) : List Char :=
  cs.flatMap (encodeChar plain)

/-- The value of a lower case hexadecimal digit. -/
def hexDigit? (c : Char) : Option Nat :=
  if c.isDigit then some (c.toNat - '0'.toNat)
  else if 'a' ≤ c ∧ c ≤ 'f' then some (c.toNat - 'a'.toNat + 10)
  else none

/-- The character that an escape stands for, and what follows the escape. The escape is given
without its backslash. -/
def decodeEscape : List Char → Option (Char × List Char)
  | [] => none
  | mark :: cs =>
    match shortEscapes.find? (·.2 == mark), mark, cs with
    | some (c, _), _, cs => some (c, cs)
    | none, 'u', '\x7b' :: cs =>
      match cs.dropWhile fun c => (hexDigit? c).isSome with
      | '\x7d' :: rest =>
        let digits := (cs.takeWhile fun c => (hexDigit? c).isSome).filterMap hexDigit?
        some (Char.ofNat (digits.foldl (16 * · + ·) 0), rest)
      | _ => none
    | none, _, _ => none

theorem length_decodeEscape_lt {cs rest : List Char} {c : Char}
    (h : decodeEscape cs = some (c, rest)) : rest.length < cs.length := by
  unfold decodeEscape at h
  split at h
  · cases h
  · split at h
    · cases h
      simp
    · rename_i tail _
      split at h
      · rename_i hdrop
        cases h
        have := (tail.dropWhile_sublist fun c => (hexDigit? c).isSome).length_le
        rw [hdrop] at this
        simp at this ⊢
        omega
      · cases h
    · cases h

/-- The text inside quotes up to the first double quote without a backslash, and what follows that
quote. -/
def decode : List Char → Option (List Char × List Char)
  | [] => none
  | c :: cs =>
    if c = '"' then
      some ([], cs)
    else if c = '\\' then
      match h : decodeEscape cs with
      | none => none
      | some (d, rest) =>
        have := length_decodeEscape_lt h
        (decode rest).map fun (text, after) => (d :: text, after)
    else
      (decode cs).map fun (text, after) => (c :: text, after)
termination_by cs => cs.length
decreasing_by all_goals simp only [List.length_cons]; omega

/-- A text between double quotes, with only printable characters. -/
def quote (text : String) : String :=
  String.ofList ('"' :: encode isPrintable text.toList ++ ['"'])

end RiscvGloss.Text.Quoted
