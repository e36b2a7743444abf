import RiscvGloss.Command.Input

/-! UTF-8 and ASCII bytes. A byte below 128 stands for one character wherever it occurs, so bytes
that are cut before or after it are UTF-8 exactly when they were so as a whole. -/

namespace RiscvGloss.Text

/-- The bytes of a text in UTF-8. -/
def utf8 (text : String) : List UInt8 :=
  text.toList.flatMap String.utf8EncodeChar

/-- The bytes are some text in UTF-8. -/
def IsUtf8 (bytes : List UInt8) : Prop :=
  ∃ text, utf8 text = bytes

theorem isUtf8_nil : IsUtf8 [] :=
  ⟨"", rfl⟩

theorem utf8_append (text text' : String) : utf8 (text ++ text') = utf8 text ++ utf8 text' := by
  simp [utf8]

theorem utf8_ofList_cons (c : Char) (cs : List Char) :
    utf8 (String.ofList (c :: cs)) = String.utf8EncodeChar c ++ utf8 (String.ofList cs) := by
  simp [utf8]

theorem utf8_eq_iff {bytes : List UInt8} {text : String} :
    utf8 text = bytes ↔ text.toByteArray = bytes.toByteArray := by
  rw [← String.utf8Encode_toList, List.utf8Encode, List.toByteArray_inj, utf8]

theorem decode?_eq_some_iff {bytes : List UInt8} {text : String} :
    Command.Input.decode? bytes = some text ↔ utf8 text = bytes := by
  have hbytes : (⟨bytes.toArray⟩ : ByteArray) = bytes.toByteArray :=
    ByteArray.ext (by rw [List.data_toByteArray])
  rw [Command.Input.decode?, hbytes, String.fromUTF8?, utf8_eq_iff]
  split
  · rw [Option.some.injEq, ← String.toByteArray_inj, eq_comm]
    rfl
  · rename_i hinvalid
    refine ⟨nofun, fun htext => absurd ?_ hinvalid⟩
    exact htext ▸ text.isValidUTF8

theorem isSome_decode?_iff {bytes : List UInt8} :
    (Command.Input.decode? bytes).isSome = true ↔ IsUtf8 bytes := by
  simp only [Option.isSome_iff_exists, decode?_eq_some_iff, IsUtf8]

section

variable {byte : UInt8} {before after : List UInt8}

/-- A byte below 128 is all there is of its character. -/
theorem utf8EncodeChar_eq_of_mem (hbyte : byte.toNat < 128) {c : Char}
    (h : byte ∈ String.utf8EncodeChar c) : String.utf8EncodeChar c = [byte] := by
  have hhigh : ∀ m n, 128 ≤ n → m + n < 256 → byte ≠ UInt8.ofNat (m + n) := by
    rintro m n hn hlt rfl
    rw [UInt8.toNat_ofNat', Nat.mod_eq_of_lt hlt] at hbyte
    omega
  unfold String.utf8EncodeChar at h ⊢
  simp only at h ⊢
  split at h
  · rw [List.mem_singleton] at h
    rw [if_pos ‹_›, h]
  · exfalso
    split at h
    · simp only [List.mem_cons, List.not_mem_nil, or_false] at h
      rcases h with h | h <;> exact hhigh _ _ (by omega) (by omega) h
    · split at h <;> simp only [List.mem_cons, List.not_mem_nil, or_false] at h
      · rcases h with h | h | h <;> exact hhigh _ _ (by omega) (by omega) h
      · rcases h with h | h | h | h <;> exact hhigh _ _ (by omega) (by omega) h

theorem isUtf8_singleton (hbyte : byte.toNat < 128) : IsUtf8 [byte] := by
  refine ⟨String.singleton (Char.ofNat byte.toNat), ?_⟩
  have hvalid : byte.toNat.isValidChar := .inl (by omega)
  have hcode : (Char.ofNat byte.toNat).val.toNat = byte.toNat := by
    rw [Char.ofNat, dif_pos hvalid]
    rfl
  simp only [utf8, String.toList_singleton, List.flatMap_singleton, String.utf8EncodeChar, hcode]
  rw [if_pos (by omega), UInt8.ofNat_toNat]

theorem IsUtf8.append (h : IsUtf8 before) (h' : IsUtf8 after) : IsUtf8 (before ++ after) := by
  obtain ⟨text, rfl⟩ := h
  obtain ⟨text', rfl⟩ := h'
  exact ⟨text ++ text', utf8_append text text'⟩

theorem isUtf8_of_append_cons (hbyte : byte.toNat < 128) (h : IsUtf8 (before ++ byte :: after)) :
    IsUtf8 before ∧ IsUtf8 after := by
  obtain ⟨text, h⟩ := h
  obtain ⟨cs, rfl⟩ : ∃ cs, text = String.ofList cs := ⟨text.toList, String.ofList_toList.symm⟩
  induction cs generalizing before with
  | nil => simp [utf8] at h
  | cons c cs ih =>
    have hc : IsUtf8 (String.utf8EncodeChar c) := ⟨String.singleton c, by simp [utf8]⟩
    rw [utf8_ofList_cons] at h
    -- the byte belongs to a later character, or it starts the next one, or it is this one
    rcases List.append_eq_append_iff.1 h with ⟨rest, hbefore, hrest⟩ | ⟨rest, hchar, hrest⟩
    · obtain ⟨hfirst, hafter⟩ := ih hrest
      exact ⟨hbefore ▸ hc.append hfirst, hafter⟩
    · cases rest with
      | nil =>
        obtain ⟨-, hafter⟩ := @ih [] hrest.symm
        exact ⟨by rwa [hchar, List.append_nil] at hc, hafter⟩
      | cons b rest =>
        obtain ⟨rfl, hafter⟩ := List.cons.inj hrest
        have hmem : byte ∈ String.utf8EncodeChar c := by simp [hchar]
        have hone := utf8EncodeChar_eq_of_mem hbyte hmem
        obtain ⟨rfl, hrest⟩ : before = [] ∧ rest = [] := by
          have := congrArg List.length (hchar.symm.trans hone)
          simp only [List.length_append, List.length_cons, List.length_nil] at this
          exact ⟨List.length_eq_zero_iff.1 (by omega), List.length_eq_zero_iff.1 (by omega)⟩
        subst hrest
        exact ⟨isUtf8_nil, ⟨_, hafter.symm⟩⟩

/-- A text can be cut around a byte below 128. -/
theorem isUtf8_append_cons_iff (hbyte : byte.toNat < 128) :
    IsUtf8 (before ++ byte :: after) ↔ IsUtf8 before ∧ IsUtf8 after := by
  refine ⟨isUtf8_of_append_cons hbyte, fun ⟨hbefore, hafter⟩ => ?_⟩
  exact hbefore.append ((isUtf8_singleton hbyte).append hafter)

end

theorem utf8_inj {text text' : String} (h : utf8 text = utf8 text') : text = text' := by
  have := (decode?_eq_some_iff.2 h).symm.trans (decode?_eq_some_iff.2 rfl)
  exact Option.some.inj this

section

variable {byte : UInt8} {c : Char} {text : String}

/-- A character that is one byte below 128 is the only one with that byte. -/
theorem eq_of_mem_utf8EncodeChar (hbyte : byte.toNat < 128)
    (hc : String.utf8EncodeChar c = [byte]) {d : Char} (h : byte ∈ String.utf8EncodeChar d) :
    d = c := by
  have heq : utf8 (String.singleton d) = utf8 (String.singleton c) := by
    simp only [utf8, String.toList_singleton, List.flatMap_singleton, hc,
      utf8EncodeChar_eq_of_mem hbyte h]
  simpa using congrArg String.toList (utf8_inj heq)

theorem mem_of_mem_utf8 (hbyte : byte.toNat < 128) (hc : String.utf8EncodeChar c = [byte])
    (h : byte ∈ utf8 text) : c ∈ text.toList := by
  obtain ⟨d, hd, hmem⟩ := List.mem_flatMap.1 h
  exact eq_of_mem_utf8EncodeChar hbyte hc hmem ▸ hd

theorem getLast?_of_getLast?_utf8 (hbyte : byte.toNat < 128)
    (hc : String.utf8EncodeChar c = [byte]) (h : (utf8 text).getLast? = some byte) :
    text.toList.getLast? = some c := by
  cases hlast : text.toList.getLast? with
  | none =>
    rw [List.getLast?_eq_none_iff] at hlast
    simp [utf8, hlast] at h
  | some d =>
    obtain ⟨front, htext⟩ := List.getLast?_eq_some_iff.1 hlast
    rw [utf8, htext, List.flatMap_append, List.flatMap_singleton, List.getLast?_append,
      List.getLast?_eq_some_getLast String.utf8EncodeChar_ne_nil, Option.some_or] at h
    have hmem := List.getLast_mem (@String.utf8EncodeChar_ne_nil d)
    rw [Option.some.inj h] at hmem
    rw [eq_of_mem_utf8EncodeChar hbyte hc hmem]

end

end RiscvGloss.Text
