import CtorLeak.Proofs.Bytes.Format

/-!
# Frames

What a reader takes from a stream is a frame if it is read the same whatever comes after it, and if
no part of it can be missed: cut short anywhere, it is an error, and one that says so.

    Needs E r a w     r reads `w` as `a`, and fails with an error of `E` on each shorter beginning
    Framed E r        whatever `r` takes with success is a frame in this sense

As with formats, a reader that is built from others takes frames if they do.  What a stream is cut
to never matters for what is read before the cut, so the errors that a reader raises on its own,
because it does not like what it has read, cannot come up on the way.
-/

namespace CtorLeak.Reader

variable {ε ε' α β : Type} {E : ε → Prop}

/-- `r` reads `w` as `a`, and every proper beginning of `w` is too short for it. -/
structure Needs (E : ε → Prop) (r : Reader ε α) (a : α) (w : List UInt8) : Prop where
  reads : Reads r a w
  short : ∀ offset u v, w = u ++ v → v ≠ [] → ∃ e s, r ⟨offset, u⟩ = .error e s ∧ E e

/-- Whatever `r` takes with success, it needs. -/
def Framed (E : ε → Prop) (r : Reader ε α) : Prop :=
  ∀ s a s', r s = .ok a s' →
    ∃ w, Needs E r a w ∧ s.rest = w ++ s'.rest ∧ s'.offset = s.offset + w.length

theorem Framed.needs {r : Reader ε α} {a : α} {w : List UInt8} (h : Framed E r)
    (hr : Reads r a w) : Needs E r a w := by
  have hread : r ⟨0, w⟩ = .ok a ⟨0 + w.length, []⟩ := by
    have := hr 0 []
    rwa [List.append_nil] at this
  obtain ⟨w', hw', hrest, -⟩ := h _ _ _ hread
  rw [List.append_nil] at hrest
  change w = w' at hrest
  rwa [hrest]

theorem bind_of_eq_error {r : Reader ε α} {s s₁ : ByteStream} {e : ε} (f : α → Reader ε β)
    (h : r s = .error e s₁) : (r >>= f) s = .error e s₁ := by
  simp only [bind, EStateM.bind, h]

/-- A cut falls inside of the first part, or not before its end. -/
theorem cut_cases {u v p q : List α} (h : u ++ v = p ++ q) :
    (∃ x, x ≠ [] ∧ u = p ++ x) ∨ ∃ x, p = u ++ x ∧ v = x ++ q := by
  rcases List.append_eq_append_iff.1 h with ⟨x, hp, hv⟩ | ⟨x, hu, hq⟩
  · exact .inr ⟨x, hp, hv⟩
  · by_cases hx : x = []
    · subst hx
      exact .inr ⟨[], by rw [hu, List.append_nil, List.append_nil], hq.symm⟩
    · exact .inl ⟨x, hx, hu⟩

theorem Needs.bind {r : Reader ε α} {f : α → Reader ε β} {a : α} {b : β} {u v : List UInt8}
    (hr : Needs E r a u) (hf : Needs E (f a) b v) : Needs E (r >>= f) b (u ++ v) where
  reads := hr.reads.bind hf.reads
  short offset p q heq hq := by
    rcases cut_cases heq with ⟨x, hx, hu⟩ | ⟨x, rfl, hv⟩
    · obtain ⟨e, s, hfail, he⟩ := hr.short offset p x hu hx
      exact ⟨e, s, bind_of_eq_error f hfail, he⟩
    · obtain ⟨e, s, hfail, he⟩ := hf.short (offset + u.length) x q hv hq
      refine ⟨e, s, ?_, he⟩
      rw [bind_of_eq_ok f (hr.reads offset x), hfail]

namespace Framed

theorem pure (a : α) : Framed E (Pure.pure a : Reader ε α) := by
  intro s b s' h
  cases h
  refine ⟨[], ⟨Reads.pure a, ?_⟩, rfl, rfl⟩
  intro offset u v heq hv
  exact absurd (List.append_eq_nil_iff.1 heq.symm).2 hv

theorem throw (e : ε) : Framed E (MonadExcept.throw e : Reader ε α) := by
  intro s b s' h
  cases h

theorem bind {r : Reader ε α} {f : α → Reader ε β} (hr : Framed E r)
    (hf : ∀ a, Framed E (f a)) : Framed E (r >>= f) := by
  intro s b s' h
  obtain ⟨a, s₁, ha, hb⟩ := bind_eq_ok h
  obtain ⟨u, hu, hrest, hoffset⟩ := hr s a s₁ ha
  obtain ⟨v, hv, hrest', hoffset'⟩ := hf a s₁ b s' hb
  refine ⟨u ++ v, hu.bind hv, ?_, ?_⟩
  · rw [hrest, hrest', List.append_assoc]
  · rw [hoffset', hoffset, List.length_append, Nat.add_assoc]

theorem adaptExcept {r : Reader ε α} {E' : ε' → Prop} (f : ε → ε') (hf : ∀ e, E e → E' (f e))
    (hr : Framed E r) : Framed E' (r.adaptExcept f) := by
  intro s a s' h
  obtain ⟨w, hw, hrest⟩ := hr s a s' (adaptExcept_eq_ok h)
  refine ⟨w, ⟨hw.reads.adaptExcept f, ?_⟩, hrest⟩
  intro offset u v heq hv
  obtain ⟨e, t, hfail, he⟩ := hw.short offset u v heq hv
  refine ⟨f e, t, ?_, hf e he⟩
  unfold EStateM.adaptExcept
  rw [hfail]

theorem map {r : Reader ε α} (f : α → β) (hr : Framed E r) : Framed E (f <$> r) := by
  rw [map_eq_pure_bind]
  exact hr.bind fun a => pure (f a)

theorem take (n : Nat) (fault : Nat → ε) (hfault : ∀ found, E (fault found)) :
    Framed E (Reader.take n fault) := by
  intro s bytes s' h
  obtain ⟨hrest, rfl, hoffset⟩ := take_eq_ok h
  refine ⟨bytes, ⟨reads_take bytes fault, ?_⟩, hrest, hoffset⟩
  intro offset u v heq hv
  have hlen : u.length < bytes.length := by
    have := List.length_pos_iff.2 hv
    rw [heq, List.length_append]
    omega
  have htake : u.take bytes.length = u := List.take_of_length_le (Nat.le_of_lt hlen)
  refine ⟨fault u.length, ByteStream.skip ⟨offset, u⟩ u.length, ?_, hfault u.length⟩
  simp only [Reader.take, htake]
  rw [if_neg (Nat.ne_of_lt hlen)]

theorem times {r : Reader ε α} (n : Nat) (hr : Framed E r) : Framed E (Reader.times n r) := by
  unfold Reader.times
  induction n with
  | zero => exact pure []
  | succ n ih =>
    rw [List.replicate_succ, List.mapM_cons]
    exact hr.bind fun a => ih.bind fun as => pure (a :: as)

/-! A plain read fails for want of bytes only, so that any error of it will do. -/

theorem number (w : Nat) : Framed (fun _ => True) (Reader.number w) :=
  (take w _ fun _ => trivial).map _

theorem run (n : Nat) : Framed (fun _ => True) (Reader.run n) := take n _ fun _ => trivial

theorem u8 : Framed (fun _ => True) Reader.u8 := (number 1).map _

theorem u16 : Framed (fun _ => True) Reader.u16 := (number 2).map _

theorem u32 : Framed (fun _ => True) Reader.u32 := (number 4).map _

theorem u64 : Framed (fun _ => True) Reader.u64 := (number 8).map _

theorem i8 : Framed (fun _ => True) Reader.i8 := u8.map _

theorem i16 : Framed (fun _ => True) Reader.i16 := u16.map _

theorem i32 : Framed (fun _ => True) Reader.i32 := u32.map _

theorem i64 : Framed (fun _ => True) Reader.i64 := u64.map _

theorem vector {r : Reader ReadError α} (hr : Framed (fun _ => True) r) :
    Framed (fun _ => True) (Reader.vector r) :=
  u16.bind fun count => hr.times count.toNat

end Framed

end CtorLeak.Reader
