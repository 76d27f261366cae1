import CtorLeak.Bytes.Forward
import CtorLeak.Bytes.Writer

/-!
# Formats

A format relates values to the bytes that stand for them.  `Reads r a w` says that `r` takes `w`
for `a` whatever comes after it.  `Accepts r F` says that `r` succeeds exactly on the format `F`: it
reads every pair of `F`, and whenever it succeeds, what it took and what it made of it are a pair of
`F`.  Both are kept by sequencing, so that a reader that is built from others gets its format from
theirs.
-/

namespace CtorLeak.Reader

variable {ε ε' α β : Type}

/-- `r` takes exactly the bytes `w` and answers `a`, whatever follows them. -/
def Reads (r : Reader ε α) (a : α) (w : List UInt8) : Prop :=
  ∀ offset rest, r ⟨offset, w ++ rest⟩ = .ok a ⟨offset + w.length, rest⟩

/-- `r` succeeds exactly where the format `F` says. -/
structure Accepts (r : Reader ε α) (F : α → List UInt8 → Prop) : Prop where
  reads : ∀ a w, F a w → Reads r a w
  sound : ∀ s a s', r s = .ok a s' →
    ∃ w, F a w ∧ s.rest = w ++ s'.rest ∧ s'.offset = s.offset + w.length

/-! ## Sequencing -/

theorem bind_of_eq_ok {r : Reader ε α} {s s₁ : ByteStream} {a : α} (f : α → Reader ε β)
    (h : r s = .ok a s₁) : (r >>= f) s = f a s₁ := by
  simp only [bind, EStateM.bind, h]

theorem map_of_eq_ok {r : Reader ε α} {s s₁ : ByteStream} {a : α} (f : α → β)
    (h : r s = .ok a s₁) : (f <$> r) s = .ok (f a) s₁ := by
  simp only [Functor.map, EStateM.map, h]

namespace Reads

theorem pure (a : α) : Reads (Pure.pure a : Reader ε α) a [] := by
  intro offset rest
  rfl

theorem bind {r : Reader ε α} {f : α → Reader ε β} {a : α} {b : β} {u v : List UInt8}
    (hr : Reads r a u) (hf : Reads (f a) b v) : Reads (r >>= f) b (u ++ v) := by
  intro offset rest
  rw [List.append_assoc, bind_of_eq_ok f (hr offset (v ++ rest)), hf, List.length_append,
    Nat.add_assoc]

theorem map {r : Reader ε α} {a : α} {w : List UInt8} (f : α → β) (hr : Reads r a w) :
    Reads (f <$> r) (f a) w := by
  intro offset rest
  exact map_of_eq_ok f (hr offset rest)

theorem bind_nil {r : Reader ε α} {f : α → Reader ε β} {a : α} {b : β} {w : List UInt8}
    (hr : Reads r a w) (hf : Reads (f a) b []) : Reads (r >>= f) b w := by
  have := hr.bind hf
  rwa [List.append_nil] at this

/-- Reading ends with an answer made from what was read. -/
theorem bind_pure {r : Reader ε α} {a : α} {w : List UInt8} (hr : Reads r a w) (f : α → β) :
    Reads (r >>= fun a => Pure.pure (f a)) (f a) w :=
  hr.bind_nil (pure (f a))

theorem adaptExcept {r : Reader ε α} {a : α} {w : List UInt8} (f : ε → ε') (hr : Reads r a w) :
    Reads (r.adaptExcept f) a w := by
  intro offset rest
  unfold EStateM.adaptExcept
  rw [hr offset rest]

theorem times {r : Reader ε α} (write : α → List UInt8) (l : List α)
    (h : ∀ a ∈ l, Reads r a (write a)) : Reads (Reader.times l.length r) l (l.flatMap write) := by
  unfold Reader.times
  induction l with
  | nil => exact pure []
  | cons a l ih =>
    rw [List.length_cons, List.replicate_succ, List.mapM_cons, List.flatMap_cons]
    refine (h a List.mem_cons_self).bind ?_
    exact (ih fun b hb => h b (List.mem_cons_of_mem a hb)).bind_pure (a :: ·)

end Reads

/-- The bytes of several values one after the other. -/
inductive Row (F : α → List UInt8 → Prop) : List α → List UInt8 → Prop where
  | nil : Row F [] []
  | cons {a : α} {l : List α} {u v : List UInt8} (ha : F a u) (hl : Row F l v) :
      Row F (a :: l) (u ++ v)

/-- A row of values that are written in one way each. -/
theorem row_write_iff (P : α → Prop) (write : α → List UInt8) (l : List α) (w : List UInt8) :
    Row (fun a u => P a ∧ u = write a) l w ↔ (∀ a ∈ l, P a) ∧ w = l.flatMap write := by
  induction l generalizing w with
  | nil =>
    constructor
    · intro h
      cases h
      exact ⟨List.forall_mem_nil _, rfl⟩
    · rintro ⟨-, rfl⟩
      exact .nil
  | cons a l ih =>
    rw [List.forall_mem_cons, List.flatMap_cons]
    constructor
    · intro h
      cases h with
      | cons ha hl =>
        obtain ⟨hP, rfl⟩ := ha
        obtain ⟨hPs, rfl⟩ := (ih _).1 hl
        exact ⟨⟨hP, hPs⟩, rfl⟩
    · rintro ⟨⟨hP, hPs⟩, rfl⟩
      exact .cons ⟨hP, rfl⟩ ((ih _).2 ⟨hPs, rfl⟩)

theorem row_flatMap_iff (write : α → List UInt8) (l : List α) (w : List UInt8) :
    Row (fun a u => u = write a) l w ↔ w = l.flatMap write := by
  simpa using row_write_iff (fun _ => True) write l w

theorem length_flatMap_write {write : α → List UInt8} {size : Nat}
    (h : ∀ a, (write a).length = size) (l : List α) :
    (l.flatMap write).length = l.length * size := by
  induction l with
  | nil => simp
  | cons a l ih =>
    rw [List.flatMap_cons, List.length_append, h, ih, List.length_cons, Nat.succ_mul, Nat.add_comm]

namespace Accepts

variable {r : Reader ε α} {F : α → List UInt8 → Prop}

/-- A format may be said in other words. -/
theorem congr {G : α → List UInt8 → Prop} (hr : Accepts r F) (h : ∀ a w, F a w ↔ G a w) :
    Accepts r G where
  reads a w hw := hr.reads a w ((h a w).2 hw)
  sound s a s' hs := by
    obtain ⟨w, hw, hrest⟩ := hr.sound s a s' hs
    exact ⟨w, (h a w).1 hw, hrest⟩

/-- A value that is written in one way only is read from it. -/
theorem reads_write {write : α → List UInt8} (hr : Accepts r fun a w => w = write a) (a : α) :
    Reads r a (write a) :=
  hr.reads a _ rfl

/-- The two directions of a format in one. -/
theorem eq_ok_iff (hr : Accepts r F) {offset offset' : Nat} {b rest : List UInt8} {a : α} :
    r ⟨offset, b⟩ = .ok a ⟨offset', rest⟩ ↔
      ∃ w, F a w ∧ b = w ++ rest ∧ offset' = offset + w.length := by
  constructor
  · intro h
    exact hr.sound _ _ _ h
  · rintro ⟨w, hw, rfl, rfl⟩
    exact hr.reads a w hw offset rest

theorem pure (a : α) : Accepts (Pure.pure a : Reader ε α) fun b w => b = a ∧ w = [] where
  reads b w h := by
    obtain ⟨rfl, rfl⟩ := h
    exact Reads.pure b
  sound s b s' h := by
    cases h
    exact ⟨[], ⟨rfl, rfl⟩, rfl, rfl⟩

theorem throw (e : ε) : Accepts (MonadExcept.throw e : Reader ε α) fun _ _ => False where
  reads a w h := h.elim
  sound s a s' h := by cases h

theorem bind {f : α → Reader ε β} {G : α → β → List UInt8 → Prop} (hr : Accepts r F)
    (hf : ∀ a, Accepts (f a) (G a)) :
    Accepts (r >>= f) fun b w => ∃ a u v, F a u ∧ G a b v ∧ w = u ++ v where
  reads b w h := by
    obtain ⟨a, u, v, hu, hv, rfl⟩ := h
    exact (hr.reads a u hu).bind ((hf a).reads b v hv)
  sound s b s' h := by
    obtain ⟨a, s₁, ha, hb⟩ := bind_eq_ok h
    obtain ⟨u, hu, hrest, hoffset⟩ := hr.sound s a s₁ ha
    obtain ⟨v, hv, hrest', hoffset'⟩ := (hf a).sound s₁ b s' hb
    refine ⟨u ++ v, ⟨a, u, v, hu, hv, rfl⟩, ?_, ?_⟩
    · rw [hrest, hrest', List.append_assoc]
    · rw [hoffset', hoffset, List.length_append, Nat.add_assoc]

/-- Reading ends with an answer made from what was read. -/
theorem bind_pure (hr : Accepts r F) (f : α → β) :
    Accepts (r >>= fun a => Pure.pure (f a)) fun b w => ∃ a, F a w ∧ b = f a := by
  refine (hr.bind fun a => pure (f a)).congr fun b w => ?_
  constructor
  · rintro ⟨a, u, v, hu, ⟨rfl, rfl⟩, rfl⟩
    rw [List.append_nil]
    exact ⟨a, hu, rfl⟩
  · rintro ⟨a, hw, rfl⟩
    exact ⟨a, w, [], hw, ⟨rfl, rfl⟩, (List.append_nil w).symm⟩

theorem map (hr : Accepts r F) (f : α → β) :
    Accepts (f <$> r) fun b w => ∃ a, F a w ∧ b = f a where
  reads b w h := by
    obtain ⟨a, ha, rfl⟩ := h
    exact (hr.reads a w ha).map f
  sound s b s' h := by
    obtain ⟨a, ha, rfl⟩ := map_eq_ok h
    obtain ⟨w, hw, hrest⟩ := hr.sound s a s' ha
    exact ⟨w, ⟨a, hw, rfl⟩, hrest⟩

theorem adaptExcept (hr : Accepts r F) (f : ε → ε') : Accepts (r.adaptExcept f) F where
  reads a w h := (hr.reads a w h).adaptExcept f
  sound s a s' h := hr.sound s a s' (adaptExcept_eq_ok h)

theorem times (hr : Accepts r F) (n : Nat) :
    Accepts (Reader.times n r) fun l w => l.length = n ∧ Row F l w := by
  unfold Reader.times
  induction n with
  | zero =>
    refine (pure []).congr fun l w => ?_
    constructor
    · rintro ⟨rfl, rfl⟩
      exact ⟨rfl, .nil⟩
    · rintro ⟨hlen, hrow⟩
      cases hrow with
      | nil => exact ⟨rfl, rfl⟩
      | cons => cases hlen
  | succ n ih =>
    rw [List.replicate_succ, List.mapM_cons]
    refine (hr.bind fun a => ih.bind_pure (a :: ·)).congr fun l w => ?_
    constructor
    · rintro ⟨a, u, v, hu, ⟨l', ⟨rfl, hrow⟩, rfl⟩, rfl⟩
      exact ⟨rfl, .cons hu hrow⟩
    · rintro ⟨hlen, hrow⟩
      cases hrow with
      | nil => cases hlen
      | cons ha hl =>
        exact ⟨_, _, _, ha, ⟨_, ⟨Nat.succ.inj hlen, hl⟩, rfl⟩, rfl⟩

end Accepts

/-! ## Runs of bytes and numbers -/

theorem reads_take (w : List UInt8) (fault : Nat → ε) : Reads (take w.length fault) w w := by
  intro offset rest
  simp [take, ByteStream.skip]

theorem accepts_take (n : Nat) (fault : Nat → ε) :
    Accepts (take n fault) fun bytes w => bytes.length = n ∧ w = bytes where
  reads bytes w h := by
    obtain ⟨rfl, rfl⟩ := h
    exact reads_take _ fault
  sound s bytes s' h := by
    obtain ⟨hrest, hlen, hoffset⟩ := take_eq_ok h
    exact ⟨bytes, ⟨hlen, rfl⟩, hrest, by rw [hoffset, hlen]⟩

theorem accepts_run (n : Nat) : Accepts (run n) fun bytes w => bytes.length = n ∧ w = bytes :=
  accepts_take n _

/-- A run of bytes is read back behind any number that is its length. -/
theorem reads_run {n : Nat} {bytes : List UInt8} (h : n = bytes.length) :
    Reads (run n) bytes bytes := by
  subst h
  exact reads_take bytes _

theorem accepts_number (width : Nat) :
    Accepts (number width) fun n w =>
      n < BigEndian.weight width ∧ w = BigEndian.bytesOfNat width n := by
  refine ((accepts_take width _).map BigEndian.natOfBytes).congr fun n w => ?_
  constructor
  · rintro ⟨bytes, ⟨rfl, rfl⟩, rfl⟩
    exact ⟨BigEndian.natOfBytes_lt _, (BigEndian.bytesOfNat_natOfBytes _).symm⟩
  · rintro ⟨hlt, rfl⟩
    refine ⟨_, ⟨BigEndian.length_bytesOfNat width n, rfl⟩, ?_⟩
    rw [BigEndian.natOfBytes_bytesOfNat, Nat.mod_eq_of_lt hlt]

/-- A number that is read and stored in a word of just its size. -/
theorem accepts_word {ω : Type} (width : Nat) (ofNat : Nat → ω) (toNat : ω → Nat)
    (hlt : ∀ x, toNat x < BigEndian.weight width) (hof : ∀ x, ofNat (toNat x) = x)
    (hto : ∀ n, n < BigEndian.weight width → toNat (ofNat n) = n) :
    Accepts (ofNat <$> number width) fun x w => w = BigEndian.bytesOfNat width (toNat x) := by
  refine ((accepts_number width).map ofNat).congr fun x w => ?_
  constructor
  · rintro ⟨n, ⟨hn, rfl⟩, rfl⟩
    rw [hto n hn]
  · rintro rfl
    exact ⟨toNat x, ⟨hlt x, rfl⟩, (hof x).symm⟩

theorem accepts_u8 : Accepts u8 fun n w => w = Writer.u8 n :=
  accepts_word 1 UInt8.ofNat UInt8.toNat UInt8.toNat_lt (fun _ => UInt8.ofNat_toNat)
    fun _ h => UInt8.toNat_ofNat_of_lt' h

theorem accepts_u16 : Accepts u16 fun n w => w = Writer.u16 n :=
  accepts_word 2 UInt16.ofNat UInt16.toNat UInt16.toNat_lt (fun _ => UInt16.ofNat_toNat)
    fun _ h => UInt16.toNat_ofNat_of_lt' h

theorem accepts_u32 : Accepts u32 fun n w => w = Writer.u32 n :=
  accepts_word 4 UInt32.ofNat UInt32.toNat UInt32.toNat_lt (fun _ => UInt32.ofNat_toNat)
    fun _ h => UInt32.toNat_ofNat_of_lt' h

theorem accepts_u64 : Accepts u64 fun n w => w = Writer.u64 n :=
  accepts_word 8 UInt64.ofNat UInt64.toNat UInt64.toNat_lt (fun _ => UInt64.ofNat_toNat)
    fun _ h => UInt64.toNat_ofNat_of_lt' h

/-- Two's complement: the signed reading of an unsigned number. -/
theorem accepts_signed {ω ι : Type} {r : Reader ε ω} {write : ω → List UInt8} (toSigned : ω → ι)
    (toUnsigned : ι → ω) (hs : ∀ i, toSigned (toUnsigned i) = i)
    (hu : ∀ x, toUnsigned (toSigned x) = x) (hr : Accepts r fun x w => w = write x) :
    Accepts (toSigned <$> r) fun i w => w = write (toUnsigned i) := by
  refine (hr.map toSigned).congr fun i w => ?_
  constructor
  · rintro ⟨x, rfl, rfl⟩
    rw [hu]
  · rintro rfl
    exact ⟨toUnsigned i, rfl, (hs i).symm⟩

theorem accepts_i8 : Accepts i8 fun n w => w = Writer.i8 n :=
  accepts_signed UInt8.toInt8 Int8.toUInt8 (fun _ => rfl) (fun _ => rfl) accepts_u8

theorem accepts_i16 : Accepts i16 fun n w => w = Writer.i16 n :=
  accepts_signed UInt16.toInt16 Int16.toUInt16 (fun _ => rfl) (fun _ => rfl) accepts_u16

theorem accepts_i32 : Accepts i32 fun n w => w = Writer.i32 n :=
  accepts_signed UInt32.toInt32 Int32.toUInt32 (fun _ => rfl) (fun _ => rfl) accepts_u32

theorem accepts_i64 : Accepts i64 fun n w => w = Writer.i64 n :=
  accepts_signed UInt64.toInt64 Int64.toUInt64 (fun _ => rfl) (fun _ => rfl) accepts_u64

/-! ## Vectors -/

/-- A vector is read back if its length can be written. -/
theorem Reads.vector {r : Reader ReadError α} (write : α → List UInt8) {l : List α}
    (hlength : l.length ≤ 65535) (h : ∀ a ∈ l, Reads r a (write a)) :
    Reads (Reader.vector r) l (Writer.vector write l) := by
  have hcount : (UInt16.ofNat l.length).toNat = l.length :=
    UInt16.toNat_ofNat_of_lt' (Nat.lt_succ_of_le hlength)
  have htimes : Reads (Reader.times (UInt16.ofNat l.length).toNat r) l (l.flatMap write) := by
    rw [hcount]
    exact Reads.times write l h
  exact (accepts_u16.reads_write _).bind htimes

/-- A vector is the number of its elements and then their row. -/
theorem Accepts.vector {r : Reader ReadError α} {F : α → List UInt8 → Prop} (hr : Accepts r F) :
    Accepts (Reader.vector r) fun l w =>
      l.length ≤ 65535 ∧ ∃ v, Row F l v ∧ w = Writer.u16 (UInt16.ofNat l.length) ++ v := by
  refine (accepts_u16.bind fun count => hr.times count.toNat).congr fun l w => ?_
  constructor
  · rintro ⟨count, _, v, rfl, ⟨hcount, hrow⟩, rfl⟩
    have hlt : count.toNat < 65536 := count.toNat_lt
    refine ⟨by omega, v, hrow, ?_⟩
    rw [hcount, UInt16.ofNat_toNat]
  · rintro ⟨hlength, v, hrow, rfl⟩
    have hcount : (UInt16.ofNat l.length).toNat = l.length :=
      UInt16.toNat_ofNat_of_lt' (Nat.lt_succ_of_le hlength)
    exact ⟨_, _, v, rfl, ⟨hcount.symm, hrow⟩, rfl⟩

/-- Bytes behind their number, and then the rest of a record. -/
theorem accepts_longRun {f : List UInt8 → Reader ReadError β}
    {G : List UInt8 → β → List UInt8 → Prop}
    (hf : ∀ bytes, Accepts (f bytes) (G bytes)) :
    Accepts (u32 >>= fun length => run length.toNat >>= f) fun b w =>
      ∃ bytes v, bytes.length < 4294967296 ∧ G bytes b v ∧ w = Writer.longRun bytes ++ v := by
  refine (accepts_u32.bind fun length => (accepts_run length.toNat).bind hf).congr fun b w => ?_
  constructor
  · rintro ⟨length, _, _, rfl, ⟨_, bytes, v, ⟨hlength, rfl⟩, hv, rfl⟩, rfl⟩
    refine ⟨bytes, v, ?_, hv, ?_⟩
    · rw [hlength]
      exact length.toNat_lt
    · rw [Writer.longRun, hlength, UInt32.ofNat_toNat, List.append_assoc]
  · rintro ⟨bytes, v, hlength, hv, rfl⟩
    have hcount : (UInt32.ofNat bytes.length).toNat = bytes.length :=
      UInt32.toNat_ofNat_of_lt' hlength
    refine ⟨_, _, _, rfl, ⟨bytes, _, v, ⟨hcount.symm, rfl⟩, hv, rfl⟩, ?_⟩
    rw [Writer.longRun, List.append_assoc]

end CtorLeak.Reader
