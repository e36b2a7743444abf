import Mathlib.Data.List.Basic
import RiscvGloss.Proofs.Text.Digits
import RiscvGloss.Text.Quoted

/-! Reading quoted text back. The inside of the quotes gives the text that was quoted, up to the
closing quote and whatever stands after it, for every choice of the characters that may stand as
they are. A character with an escape of its own stands in quoted text only if an escape is made of
it, so quoted text is on one line. -/

namespace RiscvGloss.Text.Quoted

section CodePoint

theorem hexDigit?_digitChar : ∀ d < 16, hexDigit? (Nat.digitChar d) = some d := by
  decide

theorem isSome_hexDigit?_of_mem_toDigits {n : Nat} {c : Char} (h : c ∈ Nat.toDigits 16 n) :
    (hexDigit? c).isSome = true := by
  obtain ⟨d, hd, rfl⟩ := exists_digit_of_mem_toDigits (by decide) h
  rw [hexDigit?_digitChar d hd]
  rfl

theorem foldl_filterMap_hexDigit?_toDigits (n : Nat) :
    ((Nat.toDigits 16 n).filterMap hexDigit?).foldl (16 * · + ·) 0 = n := by
  have hvalues : (Nat.toDigits 16 n).filterMap hexDigit? =
      (Nat.toDigits 16 n).map fun c => (hexDigit? c).getD 0 := by
    rw [← List.filterMap_eq_map']
    refine List.filterMap_congr fun c hc => ?_
    obtain ⟨d, hd⟩ := Option.isSome_iff_exists.1 (isSome_hexDigit?_of_mem_toDigits hc)
    rw [hd, Option.getD_some]
  rw [hvalues]
  exact foldl_toDigits (by decide) (fun d hd => by rw [hexDigit?_digitChar d hd]; rfl) n

theorem decodeEscape_codePoint (c : Char) (rest : List Char) :
    decodeEscape (codePoint c ++ rest) = some (c, rest) := by
  have hdigits : ∀ d ∈ Nat.toDigits 16 c.toNat, (hexDigit? d).isSome = true :=
    fun _ => isSome_hexDigit?_of_mem_toDigits
  -- the closing brace is no digit, so the run of digits ends there
  have hbrace : (hexDigit? '\x7d').isSome = false := by decide
  have hrest : codePoint c ++ rest =
      'u' :: '\x7b' :: (Nat.toDigits 16 c.toNat ++ '\x7d' :: rest) := by
    simp [codePoint]
  have hmark : shortEscapes.find? (·.2 == 'u') = none := by decide
  rw [hrest]
  unfold decodeEscape
  simp only [hmark, List.dropWhile_append_of_pos hdigits, List.takeWhile_append_of_pos hdigits,
    List.dropWhile_cons, List.takeWhile_cons, hbrace]
  simp [foldl_filterMap_hexDigit?_toDigits, Char.ofNat_toNat]

end CodePoint

variable {plain : Char → Bool} {c mark : Char} {cs rest : List Char}

theorem mem_shortEscapes_of_lookup (h : shortEscapes.lookup c = some mark) :
    (c, mark) ∈ shortEscapes := by
  obtain ⟨before, after, hsplit, -⟩ := List.lookup_eq_some_iff.1 h
  rw [hsplit]
  simp

theorem decodeEscape_cons (h : shortEscapes.lookup c = some mark) (rest : List Char) :
    decodeEscape (mark :: rest) = some (c, rest) := by
  have hall : shortEscapes.all fun escape =>
      shortEscapes.find? (·.2 == escape.2) == some escape := by decide
  have hfind : shortEscapes.find? (·.2 == mark) = some (c, mark) := by
    simpa using List.all_eq_true.1 hall (c, mark) (mem_shortEscapes_of_lookup h)
  unfold decodeEscape
  simp only [hfind]

theorem decode_quote (rest : List Char) : decode ('"' :: rest) = some ([], rest) := by
  rw [decode, if_pos rfl]

theorem decode_escape (h : decodeEscape cs = some (c, rest)) :
    decode ('\\' :: cs) = (decode rest).map fun (text, after) => (c :: text, after) := by
  rw [decode, if_neg (by decide), if_pos rfl]
  split
  · rename_i hnone
    simp [h] at hnone
  · rename_i d rest' hsome
    rw [h] at hsome
    cases hsome
    rfl

theorem decode_cons (hquote : c ≠ '"') (hslash : c ≠ '\\') (cs : List Char) :
    decode (c :: cs) = (decode cs).map fun (text, after) => (c :: text, after) := by
  rw [decode, if_neg hquote, if_neg hslash]

/-- Each quoted character reads back as the character, whatever follows. -/
theorem decode_encodeChar (plain : Char → Bool) (c : Char) (rest : List Char) :
    decode (encodeChar plain c ++ rest) =
      (decode rest).map fun (text, after) => (c :: text, after) := by
  unfold encodeChar
  split
  · rename_i mark hmark
    exact decode_escape (decodeEscape_cons hmark rest)
  · rename_i hnone
    have hquote : c ≠ '"' := by
      rintro rfl
      exact absurd hnone (by decide)
    have hslash : c ≠ '\\' := by
      rintro rfl
      exact absurd hnone (by decide)
    split
    · exact decode_cons hquote hslash rest
    · exact decode_escape (decodeEscape_codePoint c rest)

/-- Quoted text reads back as the text up to the closing quote. -/
theorem decode_encode (plain : Char → Bool) (cs rest : List Char) :
    decode (encode plain cs ++ '"' :: rest) = some (cs, rest) := by
  induction cs with
  | nil => exact decode_quote rest
  | cons c cs ih =>
    have hsplit : encode plain (c :: cs) ++ '"' :: rest =
        encodeChar plain c ++ (encode plain cs ++ '"' :: rest) := by
      rw [encode, List.flatMap_cons, List.append_assoc, encode]
    rw [hsplit, decode_encodeChar, ih]
    rfl

theorem lookup_eq_none_of_mem_codePoint {d : Char} (h : d ∈ codePoint c) :
    shortEscapes.lookup d = none := by
  have hdigits : ∀ d < 16, shortEscapes.lookup (Nat.digitChar d) = none := by decide
  simp only [codePoint, List.mem_append, List.mem_cons, List.not_mem_nil, or_false] at h
  rcases h with ((rfl | rfl) | h) | rfl
  · decide
  · decide
  · obtain ⟨k, hk, rfl⟩ := exists_digit_of_mem_toDigits (by decide) h
    exact hdigits k hk
  · decide

/-- What has an escape of its own is written by that escape, and only escapes add a backslash or a
double quote. -/
theorem lookup_eq_none_of_mem_encodeChar {d : Char} (h : d ∈ encodeChar plain c)
    (hquote : d ≠ '"') (hslash : d ≠ '\\') : shortEscapes.lookup d = none := by
  unfold encodeChar at h
  split at h
  · rename_i mark hmark
    have hall : shortEscapes.all fun escape =>
        escape.2 == '"' || escape.2 == '\\' || (shortEscapes.lookup escape.2).isNone := by decide
    have hmarks := List.all_eq_true.1 hall (c, mark) (mem_shortEscapes_of_lookup hmark)
    simp only [List.mem_cons, List.not_mem_nil, or_false, hslash, false_or] at h
    subst h
    simpa [hquote, hslash] using hmarks
  · rename_i hnone
    split at h
    · rwa [List.mem_singleton.1 h]
    · exact lookup_eq_none_of_mem_codePoint ((List.mem_cons.1 h).resolve_left hslash)

theorem not_mem_encode {d : Char} (hescape : (shortEscapes.lookup d).isSome = true)
    (hquote : d ≠ '"') (hslash : d ≠ '\\') : d ∉ encode plain cs := by
  intro h
  obtain ⟨c, -, hc⟩ := List.mem_flatMap.1 h
  rw [lookup_eq_none_of_mem_encodeChar hc hquote hslash] at hescape
  cases hescape

end RiscvGloss.Text.Quoted
