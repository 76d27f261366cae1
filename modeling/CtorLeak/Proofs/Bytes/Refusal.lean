import CtorLeak.Proofs.Bytes.Framing

/-!
# Refusals

The other side of formats: `Refuses r E` says that `r` fails with `e` exactly on the bytes of `E e`.
A sequence is refused where its first part is, or where the second is behind bytes of the first, so
that the format of the first part has to be known.

Most parts of a record are as long as they are whatever their bytes.  `Takes E n r` says this of a
reader: `n` bytes are always enough, and fewer never are.
-/

namespace CtorLeak.Reader

variable {ε ε' α β : Type}

/-- `r` fails with `e` exactly on the bytes of `E e`. -/
def Refuses (r : Reader ε α) (E : ε → List UInt8 → Prop) : Prop :=
  ∀ s e, (∃ s', r s = .error e s') ↔ E e s.rest

/-- `r` takes `n` bytes, whichever they are, and fails with an error of `E` if there are fewer. -/
structure Takes (E : ε → Prop) (n : Nat) (r : Reader ε α) : Prop where
  enough : ∀ s, n ≤ s.rest.length → ∃ a, r s = .ok a (s.skip n)
  short : ∀ s, s.rest.length < n → ∃ e s', r s = .error e s' ∧ E e

namespace Refuses

variable {r : Reader ε α} {E : ε → List UInt8 → Prop}

theorem congr {E' : ε → List UInt8 → Prop} (hr : Refuses r E) (h : ∀ e w, E e w ↔ E' e w) :
    Refuses r E' :=
  fun s e => (hr s e).trans (h e s.rest)

theorem pure (a : α) : Refuses (Pure.pure a : Reader ε α) fun _ _ => False := by
  intro s e
  refine ⟨?_, False.elim⟩
  rintro ⟨s', h⟩
  cases h

theorem throw (e : ε) : Refuses (MonadExcept.throw e : Reader ε α) fun e' _ => e' = e := by
  intro s e'
  constructor
  · rintro ⟨s', h⟩
    cases h
    rfl
  · rintro rfl
    exact ⟨s, rfl⟩

theorem bind {f : α → Reader ε β} {F : α → List UInt8 → Prop} {G : α → ε → List UInt8 → Prop}
    (hr : Refuses r E) (ha : Accepts r F) (hf : ∀ a, Refuses (f a) (G a)) :
    Refuses (r >>= f) fun e w => E e w ∨ ∃ a u v, F a u ∧ G a e v ∧ w = u ++ v := by
  intro s e
  constructor
  · rintro ⟨s', h⟩
    cases hrs : r s with
    | error e₁ s₁ =>
      rw [bind_of_eq_error f hrs] at h
      cases h
      exact .inl ((hr s e).1 ⟨_, hrs⟩)
    | ok a s₁ =>
      rw [bind_of_eq_ok f hrs] at h
      obtain ⟨u, hu, hrest, -⟩ := ha.sound _ _ _ hrs
      exact .inr ⟨a, u, s₁.rest, hu, (hf a s₁ e).1 ⟨s', h⟩, hrest⟩
  · rintro (h | ⟨a, u, v, hu, hv, hw⟩)
    · obtain ⟨s', hs'⟩ := (hr s e).2 h
      exact ⟨s', bind_of_eq_error f hs'⟩
    · obtain ⟨s', hs'⟩ := (hf a ⟨s.offset + u.length, v⟩ e).2 hv
      have hread : r s = .ok a ⟨s.offset + u.length, v⟩ := by
        have := ha.reads a u hu s.offset v
        rwa [← hw] at this
      exact ⟨s', by rw [bind_of_eq_ok f hread, hs']⟩

/-- What is made of an answer cannot be refused any more. -/
theorem bind_pure (hr : Refuses r E) (f : α → β) :
    Refuses (r >>= fun a => Pure.pure (f a)) E := by
  intro s e
  rw [← hr s e]
  cases hrs : r s with
  | error e₁ s₁ => rw [bind_of_eq_error _ hrs]; simp
  | ok a s₁ =>
    rw [bind_of_eq_ok _ hrs]
    constructor <;> rintro ⟨s', h⟩ <;> cases h

theorem adaptExcept (hr : Refuses r E) (f : ε → ε') :
    Refuses (r.adaptExcept f) fun e w => ∃ e', E e' w ∧ e = f e' := by
  intro s e
  constructor
  · rintro ⟨s', h⟩
    unfold EStateM.adaptExcept at h
    cases hrs : r s with
    | error e' s₁ =>
      rw [hrs] at h
      cases h
      exact ⟨e', (hr s e').1 ⟨s', hrs⟩, rfl⟩
    | ok a s₁ =>
      rw [hrs] at h
      cases h
  · rintro ⟨e', he', rfl⟩
    obtain ⟨s', hs'⟩ := (hr s e').2 he'
    exact ⟨s', by rw [EStateM.adaptExcept, hs']⟩

end Refuses

namespace Takes

variable {E : ε → Prop} {n m : Nat} {r : Reader ε α}

theorem pure (a : α) : Takes E 0 (Pure.pure a : Reader ε α) where
  enough _ _ := ⟨a, rfl⟩
  short _ h := absurd h (Nat.not_lt_zero _)

theorem bind {f : α → Reader ε β} (hr : Takes E n r) (hf : ∀ a, Takes E m (f a)) :
    Takes E (n + m) (r >>= f) where
  enough s h := by
    obtain ⟨a, ha⟩ := hr.enough s (by omega)
    have hroom : m ≤ (s.skip n).rest.length := by
      rw [ByteStream.length_rest_skip]
      omega
    obtain ⟨b, hb⟩ := (hf a).enough (s.skip n) hroom
    refine ⟨b, ?_⟩
    rw [bind_of_eq_ok f ha, hb, ByteStream.skip_skip]
  short s h := by
    by_cases hn : s.rest.length < n
    · obtain ⟨e, s', hs', he⟩ := hr.short s hn
      exact ⟨e, s', bind_of_eq_error f hs', he⟩
    · obtain ⟨a, ha⟩ := hr.enough s (by omega)
      have hroom : (s.skip n).rest.length < m := by
        rw [ByteStream.length_rest_skip]
        omega
      obtain ⟨e, s', hs', he⟩ := (hf a).short (s.skip n) hroom
      exact ⟨e, s', by rw [bind_of_eq_ok f ha, hs'], he⟩

theorem bind_pure (hr : Takes E n r) (f : α → β) : Takes E n (r >>= fun a => Pure.pure (f a)) :=
  hr.bind fun a => pure (f a)

theorem map (f : α → β) (hr : Takes E n r) : Takes E n (f <$> r) := by
  rw [map_eq_pure_bind]
  exact hr.bind_pure f

theorem adaptExcept {E' : ε' → Prop} (f : ε → ε') (hf : ∀ e, E e → E' (f e)) (hr : Takes E n r) :
    Takes E' n (r.adaptExcept f) where
  enough s h := by
    obtain ⟨a, ha⟩ := hr.enough s h
    exact ⟨a, by rw [EStateM.adaptExcept, ha]⟩
  short s h := by
    obtain ⟨e, s', hs', he⟩ := hr.short s h
    exact ⟨f e, s', by rw [EStateM.adaptExcept, hs'], hf e he⟩

theorem take (n : Nat) (fault : Nat → ε) (hfault : ∀ found, E (fault found)) :
    Takes E n (Reader.take n fault) where
  enough s h := by
    refine ⟨s.rest.take n, ?_⟩
    rw [Reader.take, if_pos (List.length_take_of_le h)]
  short s h := by
    have hlen : (s.rest.take n).length ≠ n := by
      rw [List.length_take]
      omega
    exact ⟨_, _, if_neg hlen, hfault _⟩

theorem times (k : Nat) (hr : Takes E n r) : Takes E (k * n) (Reader.times k r) := by
  unfold Reader.times
  induction k with
  | zero =>
    rw [Nat.zero_mul]
    exact pure []
  | succ k ih =>
    rw [List.replicate_succ, List.mapM_cons, Nat.succ_mul, Nat.add_comm]
    exact hr.bind fun a => ih.bind_pure (a :: ·)

/-- Where there are enough bytes for `k` rounds, each round succeeds: it starts behind the bytes of
the rounds before it, and what it reads is its entry of the list. -/
theorem rounds (hr : Takes E n r) (k : Nat) {s : ByteStream} (h : k * n ≤ s.rest.length) :
    ∃ l, Reader.times k r s = .ok l (s.skip (k * n)) ∧ l.length = k ∧
      ∀ j < k, ∃ a, l[j]? = some a ∧ r (s.skip (j * n)) = .ok a (s.skip ((j + 1) * n)) := by
  unfold Reader.times
  induction k generalizing s with
  | zero =>
    rw [Nat.zero_mul]
    exact ⟨[], rfl, rfl, fun j hj => absurd hj (Nat.not_lt_zero j)⟩
  | succ k ih =>
    rw [Nat.succ_mul] at h
    obtain ⟨a, ha⟩ := hr.enough s (by omega)
    have hrest : k * n ≤ (s.skip n).rest.length := by
      rw [ByteStream.length_rest_skip]
      omega
    have hskip (j : Nat) : (s.skip n).skip (j * n) = s.skip ((j + 1) * n) := by
      rw [ByteStream.skip_skip, Nat.succ_mul, Nat.add_comm]
    obtain ⟨l, hl, hlength, hrounds⟩ := ih hrest
    refine ⟨a :: l, ?_, by rw [List.length_cons, hlength], ?_⟩
    · rw [List.replicate_succ, List.mapM_cons, id_eq, bind_of_eq_ok _ ha, bind_of_eq_ok _ hl, hskip]
      rfl
    · intro j hj
      cases j with
      | zero =>
        rw [Nat.zero_mul, Nat.zero_add, Nat.one_mul]
        exact ⟨a, rfl, ha⟩
      | succ j =>
        obtain ⟨b, hb, hread⟩ := hrounds j (Nat.lt_of_succ_lt_succ hj)
        rw [hskip, hskip] at hread
        exact ⟨b, hb, hread⟩

theorem number (w : Nat) : Takes (fun _ => True) w (Reader.number w) :=
  (take w _ fun _ => trivial).map _

theorem run (n : Nat) : Takes (fun _ => True) n (Reader.run n) := take n _ fun _ => trivial

theorem u8 : Takes (fun _ => True) 1 Reader.u8 := (number 1).map _

theorem u16 : Takes (fun _ => True) 2 Reader.u16 := (number 2).map _

theorem i8 : Takes (fun _ => True) 1 Reader.i8 := u8.map _

theorem i16 : Takes (fun _ => True) 2 Reader.i16 := u16.map _

theorem i32 : Takes (fun _ => True) 4 Reader.i32 := ((number 4).map _).map _

/-- Bytes of a fixed number are refused exactly if some of them are missing. -/
theorem refuses {e : ε} (hr : Takes (· = e) n r) :
    Refuses r fun e' w => w.length < n ∧ e' = e := by
  intro s e'
  by_cases hn : s.rest.length < n
  · obtain ⟨_, s₁, hs₁, rfl⟩ := hr.short s hn
    simp only [hs₁, hn, true_and, EStateM.Result.error.injEq, exists_and_left, exists_eq', and_true]
    exact eq_comm
  · obtain ⟨a, ha⟩ := hr.enough s (by omega)
    simp [ha, hn]

end Takes

end CtorLeak.Reader
