import CtorLeak.Proofs.Bytes.Framing
import CtorLeak.Proofs.ClassFile.Shape

/-!
# A failed read takes everything

Readers are run one after the other on one stream, whether those before them succeed or not.  Each
either succeeds, and moves on by just the bytes of its value, or fails, and then nothing is left
(`Drains`).  From there on every reader fails that needs a byte.

In all this no byte is lost or counted twice: what has been taken and what is left are the input.
-/

namespace CtorLeak

namespace ByteStream

/-- The end of a stream is the end of every stream that it goes on as. -/
theorem skip_skip_end {s : ByteStream} {n : Nat} (h : n ≤ s.rest.length) :
    (s.skip n).skip (s.skip n).rest.length = s.skip s.rest.length := by
  rw [skip_skip, length_rest_skip, Nat.add_sub_cancel' h]

end ByteStream

/-! ## Readers -/

namespace Reader

variable {ε α β : Type}

/-- A success of `r` moves on over some bytes, a failure over all that are left. -/
structure Drains (r : Reader ε α) : Prop where
  ok : ∀ s a s', r s = .ok a s' → ∃ n ≤ s.rest.length, s' = s.skip n
  error : ∀ s e s', r s = .error e s' → s' = s.skip s.rest.length

namespace Drains

theorem pure (a : α) : Drains (Pure.pure a : Reader ε α) where
  ok s b s' h := by
    cases h
    exact ⟨0, Nat.zero_le _, rfl⟩
  error s e s' h := by cases h

theorem bind {r : Reader ε α} {f : α → Reader ε β} (hr : Drains r) (hf : ∀ a, Drains (f a)) :
    Drains (r >>= f) where
  ok s b s' h := by
    obtain ⟨a, s₁, ha, hb⟩ := bind_eq_ok h
    obtain ⟨m, hm, rfl⟩ := hr.ok s a s₁ ha
    obtain ⟨n, hn, rfl⟩ := (hf a).ok _ b s' hb
    rw [ByteStream.length_rest_skip] at hn
    exact ⟨m + n, by omega, s.skip_skip m n⟩
  error s e s' h := by
    cases hrs : r s with
    | error e₁ s₁ =>
      rw [bind_of_eq_error f hrs] at h
      cases h
      exact hr.error s e s' hrs
    | ok a s₁ =>
      rw [bind_of_eq_ok f hrs] at h
      obtain ⟨m, hm, rfl⟩ := hr.ok s a s₁ hrs
      rw [(hf a).error _ e s' h, ByteStream.skip_skip_end hm]

theorem map {r : Reader ε α} (f : α → β) (hr : Drains r) : Drains (f <$> r) := by
  rw [map_eq_pure_bind]
  exact hr.bind fun a => pure (f a)

theorem take (n : Nat) (fault : Nat → ε) : Drains (Reader.take n fault) where
  ok s bytes s' h := by
    simp only [Reader.take, List.length_take] at h
    split at h
    · cases h
      exact ⟨n, by omega, rfl⟩
    · cases h
  error s e s' h := by
    simp only [Reader.take, List.length_take] at h
    split at h
    · cases h
    · cases h
      congr 1
      omega

theorem times {r : Reader ε α} (n : Nat) (hr : Drains r) : Drains (Reader.times n r) := by
  unfold Reader.times
  induction n with
  | zero => exact pure []
  | succ n ih =>
    rw [List.replicate_succ, List.mapM_cons]
    exact hr.bind fun a => ih.bind fun as => pure (a :: as)

theorem number (w : Nat) : Drains (Reader.number w) := (take w _).map _

theorem run (n : Nat) : Drains (Reader.run n) := take n _

theorem u8 : Drains Reader.u8 := (number 1).map _

theorem u16 : Drains Reader.u16 := (number 2).map _

theorem u32 : Drains Reader.u32 := (number 4).map _

theorem u64 : Drains Reader.u64 := (number 8).map _

theorem vector {r : Reader ReadError α} (hr : Drains r) : Drains (Reader.vector r) :=
  u16.bind fun count => hr.times count.toNat

end Drains

end Reader

open Reader

/-! ## Shapes -/

theorem ExceptionHandler.drains_read : Drains ExceptionHandler.read :=
  Drains.u16.bind fun _ => Drains.u16.bind fun _ => Drains.u16.bind fun _ =>
    Drains.u16.bind fun _ => .pure _

theorem Attribute.drains_read : Drains Attribute.read :=
  Drains.u16.bind fun _ => Drains.u32.bind fun length =>
    (Drains.run length.toNat).bind fun _ => .pure _

theorem Code.drains_read : Drains Code.read :=
  Drains.u16.bind fun _ => Drains.u16.bind fun _ => Drains.u32.bind fun length =>
    (Drains.run length.toNat).bind fun _ => ExceptionHandler.drains_read.vector.bind fun _ =>
      Attribute.drains_read.vector.bind fun _ => .pure _

theorem Member.drains_read (owner : FlagOwner) : Drains (Member.read owner) :=
  Drains.u16.bind fun _ => Drains.u16.bind fun _ => Drains.u16.bind fun _ =>
    Attribute.drains_read.vector.bind fun _ => .pure _

namespace Shape

theorem drains_read (s : Shape) : Drains s.read := by
  induction s with
  | u8 => exact .u8
  | u16 => exact .u16
  | u32 => exact .u32
  | i8 => exact Drains.u8.map _
  | i16 => exact Drains.u16.map _
  | i32 => exact Drains.u32.map _
  | i64 => exact Drains.u64.map _
  | f32 => exact .u32
  | f64 => exact .u64
  | handler => exact ExceptionHandler.drains_read
  | attributeInfo => exact Attribute.drains_read
  | code => exact Code.drains_read
  | member owner => exact Member.drains_read owner
  | vector element ih => exact ih.vector

/-- Everything that has a shape starts with a number, and so needs a byte. -/
theorem exists_error_of_nil (s : Shape) (offset : Nat) :
    ∃ e t, s.read ⟨offset, []⟩ = .error e t := by
  cases s <;> exact ⟨_, _, rfl⟩

end Shape

/-! ## Steps -/

/-- What can be asked of a stream: a number of bytes as they are, or data of some shape. -/
inductive ReadStep where
  | bytes (count : Nat)
  | item (shape : Shape)
deriving DecidableEq, Repr

namespace ReadStep

def Value : ReadStep → Type
  | bytes _ => List UInt8
  | item shape => shape.Value

def read : (step : ReadStep) → Reader ReadError step.Value
  | bytes count => run count
  | item shape => shape.read

def write : (step : ReadStep) → step.Value → List UInt8
  | bytes _ => id
  | item shape => shape.write

/-- The bytes of a value, up to bits of flags that have no meaning. -/
def Writes : (step : ReadStep) → step.Value → List UInt8 → Prop
  | bytes count => fun (v : List UInt8) w => v.length = count ∧ w = v
  | item shape => shape.Writes

/-- The stream begins with the bytes of a value, the step answers with it and moves on by just these
bytes, which are as many as are written of the value. -/
def Succeeds (step : ReadStep) (s : ByteStream) : Prop :=
  ∃ v w, step.Writes v w ∧ w <+: s.rest ∧ w.length = (step.write v).length ∧
    step.read s = .ok v (s.skip w.length)

/-- The stream does not begin with the bytes of a value, and none of it is left. -/
def Fails (step : ReadStep) (s : ByteStream) : Prop :=
  (∀ v w, step.Writes v w → ¬ w <+: s.rest) ∧
    ∃ e t, step.read s = .error e t ∧ (IoError.read e).kind = "UnexpectedEof" ∧ t.rest = []

/-- The stream that a step leaves, whether it succeeds or fails. -/
def after (step : ReadStep) (s : ByteStream) : ByteStream :=
  match step.read s with
  | .ok _ t => t
  | .error _ t => t

theorem drains_read (step : ReadStep) : Drains step.read := by
  cases step with
  | bytes count => exact .run count
  | item shape => exact shape.drains_read

theorem accepts_read (step : ReadStep) : Accepts step.read step.Writes := by
  cases step with
  | bytes count => exact accepts_run count
  | item shape => exact shape.accepts_read

theorem length_of_writes {step : ReadStep} {v : step.Value} {w : List UInt8}
    (h : step.Writes v w) : w.length = (step.write v).length := by
  cases step with
  | bytes count =>
    obtain ⟨-, rfl⟩ := h
    rfl
  | item shape => exact Shape.length_of_writes h

theorem succeeds_of_ok {step : ReadStep} {s t : ByteStream} {v : step.Value}
    (h : step.read s = .ok v t) : step.Succeeds s := by
  obtain ⟨w, hw, hrest, hoffset⟩ := step.accepts_read.sound s v t h
  have ht : t = s.skip w.length := by
    rw [ByteStream.skip, hrest, List.drop_left, ← hoffset]
  rw [ht] at h
  exact ⟨v, w, hw, ⟨t.rest, hrest.symm⟩, length_of_writes hw, h⟩

theorem fails_of_error {step : ReadStep} {s t : ByteStream} {e : ReadError}
    (h : step.read s = .error e t) : step.Fails s := by
  constructor
  · rintro v w hw ⟨u, hu⟩
    have hread := step.accepts_read.reads v w hw s.offset u
    rw [hu, h] at hread
    cases hread
  · refine ⟨e, t, h, rfl, ?_⟩
    rw [step.drains_read.error s e t h]
    exact List.drop_length

theorem succeeds_or_fails (step : ReadStep) (s : ByteStream) : step.Succeeds s ∨ step.Fails s := by
  cases hread : step.read s with
  | ok v t => exact .inl (succeeds_of_ok hread)
  | error e t => exact .inr (fails_of_error hread)

/-- In an empty stream there is nothing but no bytes. -/
theorem fails_iff_of_nil (step : ReadStep) {s : ByteStream} (hs : s.rest = []) :
    step.Fails s ↔ step ≠ .bytes 0 := by
  obtain ⟨offset, rest⟩ := s
  subst hs
  constructor
  · rintro ⟨-, e, t, hread, -⟩ rfl
    cases hread
  · intro hne
    obtain ⟨e, t, hread⟩ : ∃ e t, step.read ⟨offset, []⟩ = .error e t := by
      cases step with
      | bytes count =>
        cases count with
        | zero => exact absurd rfl hne
        | succ count => exact ⟨_, _, rfl⟩
      | item shape => exact shape.exists_error_of_nil offset
    exact fails_of_error hread

theorem exists_after_eq_skip (step : ReadStep) (s : ByteStream) :
    ∃ n ≤ s.rest.length, step.after s = s.skip n := by
  unfold after
  cases hread : step.read s with
  | ok v t => exact step.drains_read.ok s v t hread
  | error e t => exact ⟨s.rest.length, Nat.le_refl _, step.drains_read.error s e t hread⟩

theorem rest_after_of_fails {step : ReadStep} {s : ByteStream} (h : step.Fails s) :
    (step.after s).rest = [] := by
  obtain ⟨-, e, t, hread, -, hrest⟩ := h
  rw [after, hread]
  exact hrest

end ReadStep

/-! ## Runs -/

/-- The steps of a run, each with the stream that it finds. -/
def visits : List ReadStep → ByteStream → List (ReadStep × ByteStream)
  | [], _ => []
  | step :: steps, s => (step, s) :: visits steps (step.after s)

/-- The stream that is left after all steps. -/
def leftBy (steps : List ReadStep) (s : ByteStream) : ByteStream :=
  steps.foldl (fun s step => step.after s) s

/-- How many bytes the steps take that find the given streams. -/
def consumed (visited : List (ReadStep × ByteStream)) : Nat :=
  visited.foldr (fun p count => p.2.rest.length - (p.1.after p.2).rest.length + count) 0

/-- A run moves on by what its steps take. -/
theorem leftBy_eq_skip (steps : List ReadStep) (s : ByteStream) :
    consumed (visits steps s) ≤ s.rest.length ∧
      leftBy steps s = s.skip (consumed (visits steps s)) := by
  induction steps generalizing s with
  | nil => exact ⟨Nat.zero_le _, rfl⟩
  | cons step steps ih =>
    obtain ⟨n, hn, hafter⟩ := step.exists_after_eq_skip s
    have hcons : consumed (visits (step :: steps) s) = n + consumed (visits steps (s.skip n)) := by
      show s.rest.length - (step.after s).rest.length + consumed (visits steps (step.after s)) = _
      rw [hafter, ByteStream.length_rest_skip]
      omega
    obtain ⟨hle, hleft⟩ := ih (s.skip n)
    rw [ByteStream.length_rest_skip] at hle
    rw [hcons]
    refine ⟨by omega, ?_⟩
    show leftBy steps (step.after s) = _
    rw [hafter, hleft, ByteStream.skip_skip]

/-- An empty stream stays empty. -/
theorem rest_of_mem_visits {steps : List ReadStep} {s : ByteStream} (hs : s.rest = [])
    {p : ReadStep × ByteStream} (hp : p ∈ visits steps s) : p.2.rest = [] := by
  induction steps generalizing s with
  | nil => cases hp
  | cons step steps ih =>
    rcases List.mem_cons.1 hp with rfl | hp
    · exact hs
    · refine ih ?_ hp
      obtain ⟨n, -, hafter⟩ := step.exists_after_eq_skip s
      rw [hafter, ByteStream.skip, hs, List.drop_nil]

theorem pairwise_visits (steps : List ReadStep) (s : ByteStream) :
    (visits steps s).Pairwise fun p q => p.1.Fails p.2 → (q.1.Fails q.2 ↔ q.1 ≠ .bytes 0) := by
  induction steps generalizing s with
  | nil => exact .nil
  | cons step steps ih =>
    refine .cons ?_ (ih (step.after s))
    intro q hq hfails
    exact q.1.fails_iff_of_nil (rest_of_mem_visits (ReadStep.rest_after_of_fails hfails) hq)

/-- Each step of a run takes just the bytes of its value or leaves none.  After one that fails, only
those succeed that ask for no bytes.  What the steps take and what they leave is the input. -/
theorem failed_reads_drain (b : List UInt8) (steps : List ReadStep) :
    (∀ p ∈ visits steps (.ofBytes b), p.1.Succeeds p.2 ∨ p.1.Fails p.2) ∧
    (visits steps (.ofBytes b)).Pairwise
      (fun p q => p.1.Fails p.2 → (q.1.Fails q.2 ↔ q.1 ≠ .bytes 0)) ∧
    consumed (visits steps (.ofBytes b)) + (leftBy steps (.ofBytes b)).rest.length = b.length := by
  refine ⟨fun p _ => p.1.succeeds_or_fails p.2, pairwise_visits steps _, ?_⟩
  obtain ⟨hle, hleft⟩ := leftBy_eq_skip steps (.ofBytes b)
  rw [hleft, ByteStream.length_rest_skip]
  exact Nat.add_sub_cancel' hle

-- A vector that announces two elements and holds one takes what there is.
example : leftBy [.item .u8, .item (.vector .i16), .bytes 0] (.ofBytes [7, 0, 2, 0, 1, 5]) =
    ⟨6, []⟩ := by
  decide

end CtorLeak
