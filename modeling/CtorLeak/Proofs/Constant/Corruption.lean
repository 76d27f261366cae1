import CtorLeak.Proofs.Bytes.Refusal
import CtorLeak.Proofs.Constant.Pool

/-!
# What is wrong with a constant pool

`Constant.Entry` relates a constant to the bytes that stand for it, and `Constant.EntryFault` says
what is wrong with the bytes that should stand for the constant of a slot: they may be corrupt, with
a tag that no constant has or a text that is none, or some of them may be missing.

    Accepts (Constant.read index) Entry                 (accepts_read)
    Refuses (Constant.read index) (EntryFault index)    (refuses_read)

A pool is refused for its first bad entry, which stands behind a row of good ones.  These take the
slots in front of it, so that their widths say which slot is reported (`refuses_readConstants`).
-/

namespace CtorLeak

open Reader

/-! ## Plain numbers -/

namespace Reader

theorem Accepts.lift {α : Type} {r : Reader ReadError α} {F : α → List UInt8 → Prop}
    (h : Accepts r F) : Accepts (liftM r : Reader FormatError α) F :=
  h.adaptExcept _

/-- `r` reads a number from its `n` bytes, and can fail for want of them only. -/
structure ReadsPlain {α : Type} (n : Nat) (r : Reader ReadError α) (write : α → List UInt8) :
    Prop where
  accepts : Accepts r fun a w => w = write a
  takes : Takes (· = .short) n r

theorem takes_word {ω : Type} (width : Nat) (ofNat : Nat → ω) :
    Takes (· = .short) width (ofNat <$> number width) := by
  have htake : Takes (· = .short) width (take width fun _ => ReadError.short) :=
    .take width _ fun _ => rfl
  exact (htake.map BigEndian.natOfBytes).map ofNat

namespace ReadsPlain

theorem u8 : ReadsPlain 1 u8 Writer.u8 := ⟨accepts_u8, takes_word 1 _⟩

theorem u16 : ReadsPlain 2 u16 Writer.u16 := ⟨accepts_u16, takes_word 2 _⟩

theorem u32 : ReadsPlain 4 u32 Writer.u32 := ⟨accepts_u32, takes_word 4 _⟩

theorem u64 : ReadsPlain 8 u64 Writer.u64 := ⟨accepts_u64, takes_word 8 _⟩

theorem i32 : ReadsPlain 4 i32 Writer.i32 := ⟨accepts_i32, (takes_word 4 _).map _⟩

theorem i64 : ReadsPlain 8 i64 Writer.i64 := ⟨accepts_i64, (takes_word 8 _).map _⟩

theorem takes_lift {α : Type} {n : Nat} {r : Reader ReadError α} {write : α → List UInt8}
    (h : ReadsPlain n r write) :
    Takes (· = .io (.read .short)) n (liftM r : Reader FormatError α) :=
  h.takes.adaptExcept _ fun _ he => by rw [he]

end ReadsPlain

/-- A run of bytes that is longer than what is left is refused with both lengths. -/
theorem refuses_run (n : Nat) :
    Refuses (run n) fun e w => w.length < n ∧ e = .shortRun n w.length := by
  intro s e
  by_cases hn : s.rest.length < n
  · have htake : s.rest.take n = s.rest := List.take_of_length_le (Nat.le_of_lt hn)
    simp only [run, take, htake, if_neg (Nat.ne_of_lt hn), hn, true_and,
      EStateM.Result.error.injEq, exists_and_left, exists_eq', and_true]
    exact eq_comm
  · obtain ⟨bytes, hbytes⟩ := (Takes.run n).enough s (by omega)
    simp [hbytes, hn]

end Reader

/-! ## Entries -/

namespace Constant

open Writer in
/-- The bytes of a constant.  A text may be spelled in more than one way behind its length; all
other constants have one layout each. -/
inductive Entry : Constant → List UInt8 → Prop where
  | text {length : UInt16} {payload : List UInt8} {text : String}
      (hlength : payload.length = length.toNat) (h : ModifiedUtf8.decode? payload = some text) :
      Entry (utf8 text) (u8 1 ++ (u16 length ++ payload))
  | other {c : Constant} (h : c.text? = none) : Entry c c.write

/-- How many bytes stand behind a tag in any case; in a text these are its length. -/
def headLength? (tag : UInt8) : Option Nat :=
  if tag ∈ [1, 7, 8, 16, 19, 20] then some 2
  else if tag = 15 then some 3
  else if tag ∈ [3, 4, 9, 10, 11, 12, 17, 18] then some 4
  else if tag ∈ [5, 6] then some 8
  else none

theorem headLength?_eq_none_iff (tag : UInt8) :
    headLength? tag = none ↔ ¬ (tag = 1 ∨ 3 ≤ tag ∧ tag ≤ 12 ∨ 15 ≤ tag ∧ tag ≤ 20) := by
  simp only [headLength?, List.mem_cons, List.not_mem_nil, or_false]
  repeat' split
  all_goals grind

open Writer in
/-- What is wrong with bytes that should start with the constant of slot `index`. -/
inductive EntryFault (index : UInt16) : FormatError → List UInt8 → Prop where
  | noTag : EntryFault index (.io (.read .short)) []
  | unknownTag {tag : UInt8} (h : headLength? tag = none) (v : List UInt8) :
      EntryFault index (.unknownConstantTag tag index) (tag :: v)
  | cut {tag : UInt8} {n : Nat} {v : List UInt8} (htag : headLength? tag = some n)
      (h : v.length < n) : EntryFault index (.io (.read .short)) (tag :: v)
  | cutText {length : UInt16} {v : List UInt8} (h : v.length < length.toNat) :
      EntryFault index (.io (.read (.shortRun length.toNat v.length))) (1 :: (u16 length ++ v))
  | malformedText {length : UInt16} {payload : List UInt8}
      (hlength : payload.length = length.toNat) (h : ModifiedUtf8.decode? payload = none)
      (v : List UInt8) :
      EntryFault index (.malformedUtf8 index) (1 :: (u16 length ++ (payload ++ v)))

/-! ## Behind the tag -/

/-- `body` reads what stands behind `tag` in the entry of slot `index`. -/
structure ReadsBehind (index : UInt16) (tag : UInt8) (body : Reader FormatError Constant) :
    Prop where
  sound : ∀ s c s', body s = .ok c s' → ∃ v, Entry c (Writer.u8 tag ++ v) ∧
    s.rest = v ++ s'.rest ∧ s'.offset = s.offset + v.length
  refuses : Refuses body fun e v => EntryFault index e (tag :: v)

namespace ReadsBehind

variable {α β : Type} {index : UInt16} {tag : UInt8} {n m : Nat} {r : Reader ReadError α}
  {q : Reader ReadError β} {write : α → List UInt8} {write' : β → List UInt8}

/-- A number of bytes that the tag tells, whichever they are. -/
theorem fixed {body : Reader FormatError Constant} {F : Constant → List UInt8 → Prop}
    (hbody : Accepts body F) (htakes : Takes (· = .io (.read .short)) n body)
    (hlength : headLength? tag = some n) (htag : tag ≠ 1)
    (hF : ∀ c v, F c v → Entry c (Writer.u8 tag ++ v)) : ReadsBehind index tag body where
  sound s c s' hs := by
    obtain ⟨v, hv, hrest⟩ := hbody.sound s c s' hs
    exact ⟨v, hF c v hv, hrest⟩
  refuses := by
    refine htakes.refuses.congr fun e v => ?_
    constructor
    · rintro ⟨h, rfl⟩
      exact .cut hlength h
    · intro h
      cases h with
      | unknownTag h =>
        rw [hlength] at h
        cases h
      | cut hlength' h =>
        rw [hlength] at hlength'
        cases hlength'
        exact ⟨h, rfl⟩
      | cutText => exact absurd rfl htag
      | malformedText => exact absurd rfl htag

theorem one (hr : ReadsPlain n r write) (f : α → Constant) (hlength : headLength? tag = some n)
    (htag : tag ≠ 1) (hf : ∀ a, Entry (f a) (Writer.u8 tag ++ write a)) :
    ReadsBehind index tag (do return f (← r)) := by
  refine fixed (hr.accepts.lift.bind_pure f) (hr.takes_lift.bind_pure f) hlength htag ?_
  rintro _ _ ⟨a, rfl, rfl⟩
  exact hf a

theorem two (hr : ReadsPlain n r write) (hq : ReadsPlain m q write') (f : α → β → Constant)
    (hlength : headLength? tag = some (n + m)) (htag : tag ≠ 1)
    (hf : ∀ a b, Entry (f a b) (Writer.u8 tag ++ write a ++ write' b)) :
    ReadsBehind index tag (do return f (← r) (← q)) := by
  refine fixed (hr.accepts.lift.bind fun a => hq.accepts.lift.bind_pure (f a))
    (hr.takes_lift.bind fun a => hq.takes_lift.bind_pure (f a)) hlength htag ?_
  rintro _ _ ⟨a, _, _, rfl, ⟨b, rfl, rfl⟩, rfl⟩
  rw [← List.append_assoc]
  exact hf a b

/-- A text: its length, its bytes, and then a look at what they spell. -/
theorem text {f : List UInt8 → Reader FormatError Constant}
    (haccepts : ∀ payload, Accepts (f payload) fun c w =>
      ∃ text, ModifiedUtf8.decode? payload = some text ∧ c = utf8 text ∧ w = [])
    (hrefuses : ∀ payload, Refuses (f payload) fun e _ =>
      ModifiedUtf8.decode? payload = none ∧ e = .malformedUtf8 index) :
    ReadsBehind index 1 (do
      let length ← u16
      let payload ← run length.toNat
      f payload) where
  sound s c s' hs := by
    obtain ⟨_, ⟨length, _, _, rfl, ⟨payload, _, _, ⟨hlength, rfl⟩, ⟨text, h, rfl, rfl⟩, rfl⟩, rfl⟩,
      hrest⟩ := (accepts_u16.lift.bind fun length =>
        (accepts_run length.toNat).lift.bind haccepts).sound s c s' hs
    rw [List.append_nil] at hrest
    exact ⟨_, .text hlength h, hrest⟩
  refuses := by
    refine (ReadsPlain.u16.takes_lift.refuses.bind accepts_u16.lift fun length =>
      ((refuses_run length.toNat).adaptExcept _).bind (accepts_run length.toNat).lift
        hrefuses).congr fun e v => ?_
    constructor
    · rintro (⟨h, rfl⟩ | ⟨length, _, w, rfl, ⟨_, ⟨h, rfl⟩, rfl⟩ |
        ⟨payload, _, v, ⟨hlength, rfl⟩, ⟨h, rfl⟩, rfl⟩, rfl⟩)
      · exact .cut rfl h
      · exact .cutText h
      · exact .malformedText hlength h v
    · intro h
      cases h with
      | unknownTag h => cases h
      | cut hlength h =>
        cases hlength
        exact .inl ⟨h, rfl⟩
      | cutText h => exact .inr ⟨_, _, _, rfl, .inl ⟨_, ⟨h, rfl⟩, rfl⟩, rfl⟩
      | malformedText hlength h v =>
        exact .inr ⟨_, _, _, rfl, .inr ⟨_, _, v, ⟨hlength, rfl⟩, ⟨h, rfl⟩, rfl⟩, rfl⟩

theorem unknown (hlength : headLength? tag = none) :
    ReadsBehind index tag (throw (.unknownConstantTag tag index)) where
  sound s c s' hs := by cases hs
  refuses := by
    refine (Refuses.throw _).congr fun e v => ?_
    constructor
    · rintro rfl
      exact .unknownTag hlength v
    · intro h
      cases h with
      | unknownTag => rfl
      | cut hlength' h =>
        rw [hlength] at hlength'
        cases hlength'
      | cutText => cases hlength
      | malformedText => cases hlength

end ReadsBehind

/-- A constant is read by its tag. -/
theorem exists_readsBehind (index : UInt16) :
    ∃ body, read index = liftM u8 >>= body ∧ ∀ tag, ReadsBehind index tag (body tag) := by
  refine ⟨_, rfl, fun tag => ?_⟩
  -- the kinds of constants in the order of their tags
  split
  · refine .text (fun payload => ?_) fun payload => ?_
    · cases ModifiedUtf8.decode? payload with
      | none => exact (Accepts.throw _).congr fun c w => by simp
      | some text => exact (Accepts.pure _).congr fun c w => by simp
    · cases ModifiedUtf8.decode? payload with
      | none => exact (Refuses.throw _).congr fun e w => by simp
      | some text => exact (Refuses.pure _).congr fun e w => by simp
  · exact .one .i32 integer rfl (by decide) fun _ => .other rfl
  · exact .one .u32 float rfl (by decide) fun _ => .other rfl
  · exact .one .i64 long rfl (by decide) fun _ => .other rfl
  · exact .one .u64 double rfl (by decide) fun _ => .other rfl
  · exact .one .u16 classInfo rfl (by decide) fun _ => .other rfl
  · exact .one .u16 string rfl (by decide) fun _ => .other rfl
  · exact .two .u16 .u16 fieldRef rfl (by decide) fun _ _ => .other rfl
  · exact .two .u16 .u16 (methodRef · · false) rfl (by decide) fun _ _ => .other rfl
  · exact .two .u16 .u16 (methodRef · · true) rfl (by decide) fun _ _ => .other rfl
  · exact .two .u16 .u16 nameAndType rfl (by decide) fun _ _ => .other rfl
  · exact .two .u8 .u16 methodHandle rfl (by decide) fun _ _ => .other rfl
  · exact .one .u16 methodType rfl (by decide) fun _ => .other rfl
  · exact .two .u16 .u16 dynamic rfl (by decide) fun _ _ => .other rfl
  · exact .two .u16 .u16 invokeDynamic rfl (by decide) fun _ _ => .other rfl
  · exact .one .u16 moduleInfo rfl (by decide) fun _ => .other rfl
  · exact .one .u16 packageInfo rfl (by decide) fun _ => .other rfl
  · refine .unknown ?_
    simp_all [headLength?]

theorem reads_entry (index : UInt16) {c : Constant} {w : List UInt8} (h : Entry c w) :
    Reads (read index) c w := by
  cases h with
  | other h =>
    refine reads_read index c fun text htext => ?_
    rw [h] at htext
    cases htext
  | @text length payload text hlength h =>
    refine (accepts_u8.reads_write 1).lift.bind ((accepts_u16.reads_write length).lift.bind ?_)
    refine (reads_run hlength.symm).lift.bind_nil ?_
    simp only [h]
    exact .pure _

/-- Constants are read from their entries and from nothing else. -/
theorem accepts_read (index : UInt16) : Accepts (read index) Entry where
  reads _ _ := reads_entry index
  sound s c s' h := by
    obtain ⟨body, hread, hbody⟩ := exists_readsBehind index
    rw [hread] at h
    obtain ⟨tag, s₁, htag, hc⟩ := bind_eq_ok h
    obtain ⟨_, rfl, hrest, hoffset⟩ := accepts_u8.lift.sound _ _ _ htag
    obtain ⟨v, hv, hrest', hoffset'⟩ := (hbody tag).sound _ _ _ hc
    refine ⟨_, hv, ?_, ?_⟩
    · rw [hrest, hrest', List.append_assoc]
    · rw [hoffset', hoffset, List.length_append, Nat.add_assoc]

theorem refuses_read (index : UInt16) : Refuses (read index) (EntryFault index) := by
  obtain ⟨body, hread, hbody⟩ := exists_readsBehind index
  rw [hread]
  refine (ReadsPlain.u8.takes_lift.refuses.bind accepts_u8.lift fun tag =>
    (hbody tag).refuses).congr fun e w => ?_
  simp only [Nat.lt_one_iff, List.length_eq_zero_iff, Writer.u8_eq]
  constructor
  · rintro (⟨rfl, rfl⟩ | ⟨tag, _, v, rfl, hv, rfl⟩)
    · exact .noTag
    · exact hv
  · intro h
    cases w with
    | nil =>
      cases h
      exact .inl ⟨rfl, rfl⟩
    | cons tag v => exact .inr ⟨tag, _, v, rfl, h, rfl⟩

end Constant

/-! ## Pools -/

namespace ConstantPool

/-- The bytes from slot `index` on hold a row of entries and then, for a slot below `count`, a bad
one. -/
def EntriesFault (count index : Nat) (e : FormatError) (bytes : List UInt8) : Prop :=
  ∃ (before : List Constant) (word : UInt16) (w v : List UInt8),
    bytes = w ++ v ∧ Row Constant.Entry before w ∧ word.toNat = index + totalWidth before ∧
    word.toNat < count ∧ Constant.EntryFault word e v

theorem refuses_readConstants {count : Nat} (hcount : count ≤ 65535) (index : Nat) :
    Refuses (readConstants count index) (EntriesFault count index) := by
  -- either the first entry is bad, or it is good and the slots go on behind its width; below the
  -- count a slot is the same number as a 16-bit word
  fun_induction readConstants count index with
  | case1 index hlt ih =>
    have hword : (UInt16.ofNat index).toNat = index :=
      UInt16.toNat_ofNat_of_lt' (by change _ < 65536; omega)
    refine ((Constant.refuses_read _).bind (Constant.accepts_read _) fun c =>
      (ih c).bind_pure (c :: ·)).congr fun e bytes => ?_
    constructor
    · rintro (h | ⟨c, u, _, hc, ⟨before, word, w, v, rfl, hrow, hslot, hbelow, h⟩, rfl⟩)
      · exact ⟨[], _, [], bytes, rfl, .nil, hword, by rwa [hword], h⟩
      · refine ⟨c :: before, word, u ++ w, v, ?_, .cons hc hrow, ?_, hbelow, h⟩
        · rw [List.append_assoc]
        · rw [hslot, totalWidth, Nat.add_assoc]
    · rintro ⟨before, word, _, v, rfl, hrow, hslot, hbelow, h⟩
      cases hrow with
      | nil =>
        have hindex : word = UInt16.ofNat index := by
          rw [← UInt16.toNat_inj, hword, hslot, totalWidth, Nat.add_zero]
        rw [hindex] at h
        exact .inl h
      | @cons c before u w hc hrow =>
        refine .inr ⟨c, u, w ++ v, hc, ⟨before, word, w, v, rfl, hrow, ?_, hbelow, h⟩, ?_⟩
        · rw [hslot, totalWidth, Nat.add_assoc]
        · rw [List.append_assoc]
  | case2 index hlt =>
    refine (Refuses.pure _).congr fun e bytes => ?_
    refine ⟨False.elim, ?_⟩
    rintro ⟨before, word, w, v, -, -, hslot, hbelow, -⟩
    omega

/-- In the bytes of a pool, `v` is what is left at the entry of slot `index`.  In front of it are the
declared count, which is above `index`, and the constants that take the slots from 1 up to it. -/
def EntryAt (index : UInt16) (v bytes : List UInt8) : Prop :=
  ∃ (count : UInt16) (before : List Constant) (w : List UInt8),
    bytes = Writer.u16 count ++ (w ++ v) ∧ Row Constant.Entry before w ∧
    index.toNat = 1 + totalWidth before ∧ 1 ≤ index.toNat ∧ index.toNat < count.toNat

/-- A pool is refused if the count is missing or an entry is bad. -/
theorem refuses_read : Refuses ConstantPool.read fun e bytes =>
    bytes.length < 2 ∧ e = .io (.read .short) ∨
      ∃ index v, EntryAt index v bytes ∧ Constant.EntryFault index e v := by
  have hentries : ∀ count : UInt16, Refuses (readConstants count.toNat 1) _ := fun count =>
    refuses_readConstants (Nat.le_of_lt_succ count.toNat_lt) 1
  refine (ReadsPlain.u16.takes_lift.refuses.bind accepts_u16.lift fun count =>
    (hentries count).bind_pure ofConstants).congr fun e bytes => ?_
  refine or_congr_right ?_
  constructor
  · rintro ⟨count, _, _, rfl, ⟨before, index, w, v, rfl, hrow, hslot, hbelow, h⟩, rfl⟩
    exact ⟨index, v, ⟨count, before, w, rfl, hrow, hslot, by omega, hbelow⟩, h⟩
  · rintro ⟨index, v, ⟨count, before, w, rfl, hrow, hslot, -, hbelow⟩, h⟩
    exact ⟨count, _, _, rfl, ⟨before, index, w, v, rfl, hrow, hslot, hbelow, h⟩, rfl⟩

/-- Which errors there are when a pool is read.  A tag that no constant has and a text that is none
are reported with the slot of their entry, and exactly where they are the first thing that is wrong;
every other failure is a lack of bytes. -/
theorem read_error_names_slot (b : List UInt8) :
    (∀ tag index, (∃ s, ConstantPool.read (.ofBytes b) = .error (.unknownConstantTag tag index) s) ↔
      (∃ v, EntryAt index (tag :: v) b) ∧
        ¬ (tag = 1 ∨ 3 ≤ tag ∧ tag ≤ 12 ∨ 15 ≤ tag ∧ tag ≤ 20)) ∧
    (∀ index, (∃ s, ConstantPool.read (.ofBytes b) = .error (.malformedUtf8 index) s) ↔
      ∃ (length : UInt16) (payload v : List UInt8),
        EntryAt index (1 :: (Writer.u16 length ++ (payload ++ v))) b ∧
        payload.length = length.toNat ∧ ModifiedUtf8.decode? payload = none) ∧
    ∀ e s, ConstantPool.read (.ofBytes b) = .error e s →
      (∃ tag index, e = .unknownConstantTag tag index) ∨ (∃ index, e = .malformedUtf8 index) ∨
        ∃ cause, e = .io cause ∧ cause.kind = "UnexpectedEof" := by
  have hfails := refuses_read (.ofBytes b)
  refine ⟨fun tag index => (hfails _).trans ?_, fun index => (hfails _).trans ?_, fun e s h => ?_⟩
  · rw [← Constant.headLength?_eq_none_iff]
    constructor
    · rintro (⟨-, h⟩ | ⟨_, _, hat, h⟩)
      · cases h
      · cases h with
        | unknownTag h v => exact ⟨⟨v, hat⟩, h⟩
    · rintro ⟨⟨v, hat⟩, h⟩
      exact .inr ⟨index, _, hat, .unknownTag h v⟩
  · constructor
    · rintro (⟨-, h⟩ | ⟨_, _, hat, h⟩)
      · cases h
      · cases h with
        | malformedText hlength h v => exact ⟨_, _, v, hat, hlength, h⟩
    · rintro ⟨length, payload, v, hat, hlength, h⟩
      exact .inr ⟨index, _, hat, .malformedText hlength h v⟩
  · rcases (hfails e).1 ⟨s, h⟩ with ⟨-, rfl⟩ | ⟨index, v, -, hfault⟩
    · exact .inr (.inr ⟨_, rfl, rfl⟩)
    · cases hfault with
      | unknownTag => exact .inl ⟨_, _, rfl⟩
      | malformedText => exact .inr (.inl ⟨_, rfl⟩)
      | noTag | cut | cutText => exact .inr (.inr ⟨_, rfl, rfl⟩)

/-- The second entry is for slot 3 if the first is a long. -/
example : ConstantPool.read (.ofBytes [0, 5, 5, 0, 0, 0, 0, 0, 0, 0, 42, 2]) =
    .error (.unknownConstantTag 2 3) ⟨12, []⟩ := by
  cbv

end ConstantPool

end CtorLeak
