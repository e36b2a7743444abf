/-! Numbers written with digits. Each digit read back as it was written, the first one weighing
most, they give the number again. -/

namespace RiscvGloss.Text

variable {base : Nat}

theorem exists_digit_of_mem_toDigits (hbase : 1 < base) {n : Nat} {c : Char}
    (h : c ∈ Nat.toDigits base n) : ∃ d < base, Nat.digitChar d = c := by
  induction n using Nat.strongRecOn with
  | ind n ih =>
    rw [Nat.toDigits_eq_if hbase] at h
    split at h
    · rename_i hn
      exact ⟨n, hn, (List.mem_singleton.1 h).symm⟩
    · rename_i hn
      rcases List.mem_append.1 h with hfront | hlast
      · exact ih (n / base) (Nat.div_lt_self (by omega) hbase) hfront
      · exact ⟨n % base, Nat.mod_lt n (by omega), (List.mem_singleton.1 hlast).symm⟩

theorem foldl_toDigits (hbase : 1 < base) {value : Char → Nat}
    (hvalue : ∀ d < base, value (Nat.digitChar d) = d) (n : Nat) :
    ((Nat.toDigits base n).map value).foldl (base * · + ·) 0 = n := by
  induction n using Nat.strongRecOn with
  | ind n ih =>
    rw [Nat.toDigits_eq_if hbase]
    split
    · rename_i hn
      simp [hvalue n hn]
    · rename_i hn
      have hfront := ih (n / base) (Nat.div_lt_self (by omega) hbase)
      have hlast := hvalue (n % base) (Nat.mod_lt n (by omega))
      rw [List.map_append, List.foldl_append, hfront, List.map_singleton, hlast]
      exact Nat.div_add_mod n base

end RiscvGloss.Text
