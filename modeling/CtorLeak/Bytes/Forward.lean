import CtorLeak.Bytes.Reader

/-!
# Readers move forward

`Forward r` says that `r`, when it succeeds, leaves no more than it was given.  Everything that is
built from `take` by sequencing has it, and a byte that is read is one byte less (`length_of_u8`).
-/

namespace CtorLeak.Reader

variable {ε ε' α β : Type}

/-- A success never leaves more than there was. -/
def Forward (r : Reader ε α) : Prop :=
  ∀ s a s', r s = .ok a s' → s'.rest.length ≤ s.rest.length

theorem bind_eq_ok {r : Reader ε α} {f : α → Reader ε β} {s s' : ByteStream} {b : β}
    (h : (r >>= f) s = .ok b s') : ∃ a s₁, r s = .ok a s₁ ∧ f a s₁ = .ok b s' := by
  simp only [bind, EStateM.bind] at h
  split at h
  · rename_i a s₁ heq
    exact ⟨a, s₁, heq, h⟩
  · cases h

theorem map_eq_ok {r : Reader ε α} {f : α → β} {s s' : ByteStream} {b : β}
    (h : (f <$> r) s = .ok b s') : ∃ a, r s = .ok a s' ∧ f a = b := by
  simp only [Functor.map, EStateM.map] at h
  split at h
  · rename_i a s₁ heq
    cases h
    exact ⟨a, heq, rfl⟩
  · cases h

theorem adaptExcept_eq_ok {r : Reader ε α} {f : ε → ε'} {s s' : ByteStream} {a : α}
    (h : r.adaptExcept f s = .ok a s') : r s = .ok a s' := by
  simp only [EStateM.adaptExcept] at h
  split at h <;> cases h
  assumption

theorem take_eq_ok {n : Nat} {fault : Nat → ε} {s s' : ByteStream} {bytes : List UInt8}
    (h : take n fault s = .ok bytes s') :
    s.rest = bytes ++ s'.rest ∧ bytes.length = n ∧ s'.offset = s.offset + n := by
  simp only [take] at h
  split at h
  · rename_i hlen
    cases h
    exact ⟨(List.take_append_drop n s.rest).symm, hlen, rfl⟩
  · cases h

namespace Forward

theorem pure (a : α) : Forward (Pure.pure a : Reader ε α) := by
  intro s b s' h
  cases h
  exact Nat.le_refl _

theorem throw (e : ε) : Forward (MonadExcept.throw e : Reader ε α) := by
  intro s b s' h
  cases h

theorem bind {r : Reader ε α} {f : α → Reader ε β} (hr : Forward r) (hf : ∀ a, Forward (f a)) :
    Forward (r >>= f) := by
  intro s b s' h
  obtain ⟨a, s₁, ha, hb⟩ := bind_eq_ok h
  exact Nat.le_trans (hf a s₁ b s' hb) (hr s a s₁ ha)

theorem map {r : Reader ε α} (f : α → β) (hr : Forward r) : Forward (f <$> r) := by
  intro s b s' h
  obtain ⟨a, ha, -⟩ := map_eq_ok h
  exact hr s a s' ha

theorem adaptExcept {r : Reader ε α} (f : ε → ε') (hr : Forward r) :
    Forward (r.adaptExcept f) := by
  intro s a s' h
  exact hr s a s' (adaptExcept_eq_ok h)

theorem take (n : Nat) (fault : Nat → ε) : Forward (Reader.take n fault) := by
  intro s bytes s' h
  rw [(take_eq_ok h).1]
  simp

theorem number (w : Nat) : Forward (Reader.number w) := (take w _).map _

theorem run (n : Nat) : Forward (Reader.run n) := take n _

theorem u8 : Forward Reader.u8 := (number 1).map _

theorem u16 : Forward Reader.u16 := (number 2).map _

theorem u32 : Forward Reader.u32 := (number 4).map _

theorem i8 : Forward Reader.i8 := u8.map _

theorem i16 : Forward Reader.i16 := u16.map _

theorem i32 : Forward Reader.i32 := u32.map _

theorem times (n : Nat) {r : Reader ε α} (hr : Forward r) : Forward (Reader.times n r) := by
  unfold Reader.times
  induction n with
  | zero => exact pure []
  | succ n ih =>
    rw [List.replicate_succ, List.mapM_cons]
    exact hr.bind fun a => ih.bind fun as => pure (a :: as)

end Forward

/-- A byte is one byte. -/
theorem length_of_u8 {s s' : ByteStream} {b : UInt8} (h : u8 s = .ok b s') :
    s'.rest.length + 1 = s.rest.length := by
  obtain ⟨n, hn, -⟩ := map_eq_ok h
  obtain ⟨bytes, hbytes, -⟩ := map_eq_ok hn
  obtain ⟨hrest, hlen, -⟩ := take_eq_ok hbytes
  rw [hrest, List.length_append, hlen, Nat.add_comm]

end CtorLeak.Reader
