import CtorLeak.Proofs.Instruction.Operands

/-!
# Decoding reads exactly the encodings

The table of forms is gone through once, opcode by opcode: every form makes encodings of
instructions out of the bytes that it asks for (`formsBetween_forms`).  The other way round, every
encoding starts with an opcode that has the right form (`makes_of_encodes`).  Hence

    Accepts (Instruction.read pool start) (Encodes pool start)          (accepts_read)
    Instruction.decode pool code = .ok is ↔ EncodesAll pool 0 is code   (decode_eq_ok_iff)
-/

namespace CtorLeak

open Reader

/-! ## From forms to encodings -/

/-- What the form of an opcode asks for makes encodings that start with the opcode, and with `wide`
in front of it if the form has operands for this. -/
structure FormAt (opcode : UInt8) (form : Form) : Prop where
  escape : form = .wide → opcode = 0xc4
  encodes : ∀ pool start i w, form.Operands pool start i w → Encodes pool start i (opcode :: w)
  encodesWide : ∀ pool start i w, form.WideOperands i w → Encodes pool start i (0xc4 :: opcode :: w)

namespace FormAt

variable {opcode : UInt8}

/-- A form that does not go with `wide`. -/
theorem narrow {form : Form} (hwide : ∀ i w, form.WideOperands i w → False) (h : form ≠ .wide)
    (hencodes : ∀ pool start i w, form.Operands pool start i w →
      Encodes pool start i (opcode :: w)) : FormAt opcode form where
  escape hform := absurd hform h
  encodes := hencodes
  encodesWide _ _ _ _ hw := (hwide _ _ hw).elim

theorem plain {i : Instruction} (h : ∀ pool start, Encodes pool start i [opcode]) :
    FormAt opcode (.plain i) := by
  refine narrow (fun _ _ => id) nofun ?_
  rintro pool start _ _ ⟨rfl, rfl⟩
  exact h pool start

theorem simple {i : Instruction} (h : i.simpleOpcode? = some opcode) : FormAt opcode (.plain i) :=
  plain fun _ _ => .simple h

theorem jump {f : Int32 → Instruction}
    (h : ∀ pool start offset, Encodes pool start (f offset.toInt32) (opcode :: Writer.i16 offset)) :
    FormAt opcode (.jump f) := by
  refine narrow (fun _ _ => id) nofun ?_
  rintro pool start _ _ ⟨offset, rfl, rfl⟩
  exact h pool start offset

theorem wideJump {f : Int32 → Instruction}
    (h : ∀ pool start offset, Encodes pool start (f offset) (opcode :: Writer.i32 offset)) :
    FormAt opcode (.wideJump f) := by
  refine narrow (fun _ _ => id) nofun ?_
  rintro pool start _ _ ⟨offset, rfl, rfl⟩
  exact h pool start offset

theorem wideConstant {f : UInt16 → Instruction}
    (h : ∀ pool start index, Encodes pool start (f index) (opcode :: Writer.u16 index)) :
    FormAt opcode (.wideConstant f) := by
  refine narrow (fun _ _ => id) nofun ?_
  rintro pool start _ _ ⟨index, rfl, rfl⟩
  exact h pool start index

theorem slot {f : UInt16 → Instruction}
    (h : ∀ pool start (slot : UInt8), Encodes pool start (f slot.toUInt16) [opcode, slot])
    (hwide : ∀ pool start slot, Encodes pool start (f slot) (0xc4 :: opcode :: Writer.u16 slot)) :
    FormAt opcode (.slot f) where
  escape := nofun
  encodes := by
    rintro pool start _ _ ⟨slot, rfl, rfl⟩
    rw [Writer.u8_eq]
    exact h pool start slot
  encodesWide := by
    rintro pool start _ _ ⟨slot, rfl, rfl⟩
    exact hwide pool start slot

theorem field {f : FieldRef → Instruction}
    (h : ∀ pool start field index, pool.fieldRef index = .ok field →
      Encodes pool start (f field) (opcode :: Writer.u16 index)) :
    FormAt opcode (.field f) := by
  refine narrow (fun _ _ => id) nofun ?_
  rintro pool start _ _ ⟨index, field, rfl, hfield, rfl⟩
  exact h pool start field index hfield

theorem method {mode : InvokeMode}
    (h : ∀ pool start method index, pool.methodRef index = .ok method →
      Encodes pool start (.invoke mode method) (opcode :: Writer.u16 index)) :
    FormAt opcode (.method mode) := by
  refine narrow (fun _ _ => id) nofun ?_
  rintro pool start _ _ ⟨index, method, rfl, hmethod, rfl⟩
  exact h pool start method index hmethod

theorem classRef {f : BinaryName → Instruction}
    (h : ∀ pool start name index, pool.className index = .ok name →
      Encodes pool start (f name) (opcode :: Writer.u16 index)) :
    FormAt opcode (.classRef f) := by
  refine narrow (fun _ _ => id) nofun ?_
  rintro pool start _ _ ⟨index, name, rfl, hname, rfl⟩
  exact h pool start name index hname

end FormAt

/-- The forms of the opcodes from `base` on and below `next`. -/
structure FormsBetween (base next : Nat) (forms : List Form) : Prop where
  length : base + forms.length = next
  formAt : ∀ k form, forms[k]? = some form → FormAt (UInt8.ofNat (base + k)) form

namespace FormsBetween

theorem nil (base : Nat) : FormsBetween base base [] where
  length := rfl
  formAt k form h := by cases h

theorem cons {base next : Nat} {form : Form} {forms : List Form}
    (h : FormAt (UInt8.ofNat base) form) (hs : FormsBetween (base + 1) next forms) :
    FormsBetween base next (form :: forms) where
  length := by
    have := hs.length
    rw [List.length_cons]
    omega
  formAt k form' hk := by
    cases k with
    | zero =>
      cases hk
      exact h
    | succ k =>
      rw [show base + (k + 1) = base + 1 + k by omega]
      exact hs.formAt k form' hk

theorem append {base middle next : Nat} {fs gs : List Form} (hf : FormsBetween base middle fs)
    (hg : FormsBetween middle next gs) : FormsBetween base next (fs ++ gs) where
  length := by
    rw [List.length_append, ← hg.length, ← hf.length, Nat.add_assoc]
  formAt k form hk := by
    have hlength := hf.length
    by_cases hlt : k < fs.length
    · rw [List.getElem?_append_left hlt] at hk
      exact hf.formAt k form hk
    · rw [List.getElem?_append_right (by omega)] at hk
      have := hg.formAt _ form hk
      rwa [show middle + (k - fs.length) = base + k by omega] at this

/-- Opcodes that differ in one argument of the instruction. -/
theorem family {α : Type} {base next : Nat} (all : List α) (opcode : α → UInt8) (F : α → Form)
    (h : ∀ a, FormAt (opcode a) (F a)) (hnext : base + all.length = next)
    (hall : all.map opcode = (List.range' base all.length).map UInt8.ofNat) :
    FormsBetween base next (all.map F) where
  length := by rw [List.length_map, hnext]
  formAt k form hk := by
    rw [List.getElem?_map, Option.map_eq_some_iff] at hk
    obtain ⟨a, ha, rfl⟩ := hk
    have hlt : k < all.length := (List.getElem?_eq_some_iff.1 ha).1
    have hop : (all.map opcode)[k]? = some (opcode a) := by
      rw [List.getElem?_map, ha]
      rfl
    rw [hall, List.getElem?_map, List.getElem?_range' hlt, Option.map_some, Option.some.injEq,
      Nat.one_mul] at hop
    rw [hop]
    exact h a

end FormsBetween

/-- Two bytes are a number, whichever they are. -/
theorem exists_u16_eq_iff (w : List UInt8) : (∃ n, w = Writer.u16 n) ↔ ∃ a b, w = [a, b] := by
  constructor
  · rintro ⟨n, rfl⟩
    exact ⟨_, _, rfl⟩
  · rintro ⟨a, b, rfl⟩
    have hlt : BigEndian.natOfBytes [a, b] < 65536 := BigEndian.natOfBytes_lt [a, b]
    refine ⟨UInt16.ofNat (BigEndian.natOfBytes [a, b]), ?_⟩
    rw [Writer.u16, UInt16.toNat_ofNat_of_lt' hlt]
    exact (BigEndian.bytesOfNat_natOfBytes [a, b]).symm

namespace FormAt

/-- A slot that is part of the opcode. -/
theorem shortSlot (slot : Fin 4) :
    UInt8.ofNat slot < 4 ∧ (UInt8.ofNat slot).toUInt16 = UInt16.ofNat slot := by
  revert slot
  decide

theorem shortLoad (p : LocalType × Fin 4) :
    FormAt (p.1.shortLoadOpcode + UInt8.ofNat p.2) (.plain (.load p.1 (UInt16.ofNat p.2))) := by
  refine plain fun pool start => ?_
  rw [← (shortSlot p.2).2]
  exact .loadShort p.1 _ (shortSlot p.2).1

theorem shortStore (p : LocalType × Fin 4) :
    FormAt (p.1.shortStoreOpcode + UInt8.ofNat p.2) (.plain (.store p.1 (UInt16.ofNat p.2))) := by
  refine plain fun pool start => ?_
  rw [← (shortSlot p.2).2]
  exact .storeShort p.1 _ (shortSlot p.2).1

theorem pushByte : FormAt 0x10 (.byte .pushByte) := by
  refine narrow (fun _ _ => id) nofun ?_
  rintro pool start _ _ ⟨value, rfl, rfl⟩
  exact .pushByte value

theorem pushShort : FormAt 0x11 (.short .pushShort) := by
  refine narrow (fun _ _ => id) nofun ?_
  rintro pool start _ _ ⟨value, rfl, rfl⟩
  exact .pushShort value

theorem narrowConstant : FormAt 0x12 (.narrowConstant .ldc) := by
  refine narrow (fun _ _ => id) nofun ?_
  rintro pool start _ _ ⟨index, rfl, rfl⟩
  rw [Writer.u8_eq]
  exact .ldc index

theorem increment : FormAt 0x84 .increment where
  escape := nofun
  encodes := by
    rintro pool start _ _ ⟨slot, amount, rfl, rfl⟩
    rw [Writer.u8_eq]
    exact .increment slot amount
  encodesWide := by
    rintro pool start _ _ ⟨slot, amount, rfl, rfl⟩
    exact .incrementWide slot amount

theorem tableSwitch : FormAt 0xaa .tableSwitch := by
  refine narrow (fun _ _ => id) nofun ?_
  rintro pool start _ _ ⟨pad, default, low, high, targets, hpad, hhigh, rfl, rfl⟩
  have h : Encodes pool start _ _ := .tableSwitch pad default low high targets hpad hhigh
  simp only [List.append_assoc] at h
  exact h

theorem lookupSwitch : FormAt 0xab .lookupSwitch := by
  refine narrow (fun _ _ => id) nofun ?_
  rintro pool start _ _ ⟨pad, default, count, pairs, hpad, hcount, rfl, rfl⟩
  have h : Encodes pool start _ _ := .lookupSwitch pad default count pairs hpad hcount
  simp only [List.append_assoc] at h
  exact h

theorem interfaceMethod : FormAt 0xb9 .interfaceMethod := by
  refine narrow (fun _ _ => id) nofun ?_
  rintro pool start _ _ ⟨index, method, count, ignored, rfl, hmethod, rfl⟩
  rw [Writer.u8_eq, Writer.u8_eq]
  exact .invokeInterface method index count ignored hmethod

theorem dynamicCall : FormAt 0xba .dynamicCall := by
  refine narrow (fun _ _ => id) nofun ?_
  rintro pool start _ _ ⟨index, site, ignored, rfl, hsite, rfl⟩
  obtain ⟨a, b, hab⟩ := (exists_u16_eq_iff _).1 ⟨ignored, rfl⟩
  rw [hab]
  exact .invokeDynamic site index a b hsite

theorem arrayType : FormAt 0xbc .arrayType := by
  refine narrow (fun _ _ => id) nofun ?_
  rintro pool start _ _ ⟨type, rfl, rfl⟩
  rw [Writer.u8_eq]
  exact .newBaseArray type

theorem wide : FormAt 0xc4 .wide where
  escape _ := rfl
  encodes _ _ _ _ h := False.elim h
  encodesWide _ _ _ _ h := False.elim h

theorem multiArray : FormAt 0xc5 .multiArray := by
  refine narrow (fun _ _ => id) nofun ?_
  rintro pool start _ _ ⟨index, name, dimensions, rfl, hname, rfl⟩
  rw [Writer.u8_eq]
  exact .newMultiArray name dimensions index hname

end FormAt

/-- All pairs, the second component running faster. -/
def pairs {α β : Type} (as : List α) (bs : List β) : List (α × β) :=
  as.flatMap fun a => bs.map fun b => (a, b)

open Form Instruction in
/-- The table of forms, block by block. -/
theorem formsBetween_forms : FormsBetween 0x00 0xca forms := by
  have h00 : FormsBetween 0x00 0x01 [plain nop] := .cons (.simple rfl) (.nil _)
  have h01 : FormsBetween 0x01 0x10 _ :=
    .family Literal.all Literal.opcode (fun c => plain (push c)) (fun _ => .simple rfl) rfl rfl
  have h10 : FormsBetween 0x10 0x15 [byte pushByte, short pushShort, narrowConstant ldc,
      wideConstant ldc, wideConstant ldc2] :=
    .cons FormAt.pushByte (.cons FormAt.pushShort (.cons FormAt.narrowConstant
      (.cons (.wideConstant fun _ _ => .ldcWide) (.cons (.wideConstant fun _ _ => .ldc2) (.nil _)))))
  have h15 : FormsBetween 0x15 0x1a _ :=
    .family LocalType.all LocalType.loadOpcode (fun type => slot (load type))
      (fun type => .slot (fun _ _ => .load type) fun _ _ => .loadWide type) rfl rfl
  have h1a : FormsBetween 0x1a 0x2e _ :=
    .family (pairs LocalType.all [(0 : Fin 4), 1, 2, 3]) _
      (fun p => plain (load p.1 (UInt16.ofNat p.2))) FormAt.shortLoad rfl rfl
  have h2e : FormsBetween 0x2e 0x36 _ :=
    .family ElementType.all ElementType.loadOpcode (fun type => plain (arrayLoad type))
      (fun _ => .simple rfl) rfl rfl
  have h36 : FormsBetween 0x36 0x3b _ :=
    .family LocalType.all LocalType.storeOpcode (fun type => slot (store type))
      (fun type => .slot (fun _ _ => .store type) fun _ _ => .storeWide type) rfl rfl
  have h3b : FormsBetween 0x3b 0x4f _ :=
    .family (pairs LocalType.all [(0 : Fin 4), 1, 2, 3]) _
      (fun p => plain (store p.1 (UInt16.ofNat p.2))) FormAt.shortStore rfl rfl
  have h4f : FormsBetween 0x4f 0x57 _ :=
    .family ElementType.all ElementType.storeOpcode (fun type => plain (arrayStore type))
      (fun _ => .simple rfl) rfl rfl
  have h57 : FormsBetween 0x57 0x60 _ :=
    .family StackOp.all StackOp.opcode (fun op => plain (stack op)) (fun _ => .simple rfl) rfl rfl
  have h60 : FormsBetween 0x60 0x78 _ :=
    .family (pairs ArithmeticOp.all NumericType.all) (fun p => p.1.opcode p.2)
      (fun p => plain (arithmetic p.1 p.2)) (fun _ => .simple rfl) rfl rfl
  have h78 : FormsBetween 0x78 0x7e _ :=
    .family (pairs ShiftOp.all IntegralType.all) (fun p => p.1.opcode p.2)
      (fun p => plain (shift p.1 p.2)) (fun _ => .simple rfl) rfl rfl
  have h7e : FormsBetween 0x7e 0x84 _ :=
    .family (pairs BitwiseOp.all IntegralType.all) (fun p => p.1.opcode p.2)
      (fun p => plain (bitwise p.1 p.2)) (fun _ => .simple rfl) rfl rfl
  have h84 : FormsBetween 0x84 0x85 [increment] := .cons FormAt.increment (.nil _)
  have h85 : FormsBetween 0x85 0x94 _ :=
    .family Conversion.all Conversion.opcode (fun c => plain (convert c)) (fun _ => .simple rfl)
      rfl rfl
  have h94 : FormsBetween 0x94 0x95 [plain compareLong] := .cons (.simple rfl) (.nil _)
  have h95 : FormsBetween 0x95 0x97 _ :=
    .family NanOrder.all NanOrder.floatOpcode (fun nan => plain (compareFloat nan))
      (fun _ => .simple rfl) rfl rfl
  have h97 : FormsBetween 0x97 0x99 _ :=
    .family NanOrder.all NanOrder.doubleOpcode (fun nan => plain (compareDouble nan))
      (fun _ => .simple rfl) rfl rfl
  have h99 : FormsBetween 0x99 0x9f _ :=
    .family Comparison.all Comparison.zeroOpcode (fun c => jump (ifZero c))
      (fun c => .jump fun _ _ => .ifZero c) rfl rfl
  have h9f : FormsBetween 0x9f 0xa5 _ :=
    .family Comparison.all Comparison.intsOpcode (fun c => jump (ifInts c))
      (fun c => .jump fun _ _ => .ifInts c) rfl rfl
  have ha5 : FormsBetween 0xa5 0xa7 _ :=
    .family Equality.all Equality.refsOpcode (fun c => jump (ifRefs c))
      (fun c => .jump fun _ _ => .ifRefs c) rfl rfl
  have ha7 : FormsBetween 0xa7 0xac [jump goto, jump jsr, slot ret, tableSwitch, lookupSwitch] :=
    .cons (.jump fun _ _ => .goto) (.cons (.jump fun _ _ => .jsr)
      (.cons (.slot (fun _ _ => .ret) fun _ _ => .retWide) (.cons FormAt.tableSwitch
        (.cons FormAt.lookupSwitch (.nil _)))))
  have hac : FormsBetween 0xac 0xb1 _ :=
    .family LocalType.all LocalType.returnOpcode (fun type => plain (returnValue type))
      (fun _ => .simple rfl) rfl rfl
  have hb1 : FormsBetween 0xb1 0xb6 [plain returnVoid, field getStatic, field putStatic,
      field getField, field putField] :=
    .cons (.simple rfl) (.cons (.field fun _ _ => .getStatic) (.cons (.field fun _ _ => .putStatic)
      (.cons (.field fun _ _ => .getField) (.cons (.field fun _ _ => .putField) (.nil _)))))
  have hb6 : FormsBetween 0xb6 0xbb [method .virtual, method .special, method .static,
      interfaceMethod, dynamicCall] :=
    .cons (.method fun _ _ => .invokeVirtual) (.cons (.method fun _ _ => .invokeSpecial)
      (.cons (.method fun _ _ => .invokeStatic) (.cons FormAt.interfaceMethod
        (.cons FormAt.dynamicCall (.nil _)))))
  have hbb : FormsBetween 0xbb 0xc0 [classRef new, arrayType, classRef newRefArray,
      plain arrayLength, plain throwRef] :=
    .cons (.classRef fun _ _ => .new) (.cons FormAt.arrayType
      (.cons (.classRef fun _ _ => .newRefArray) (.cons (.simple rfl) (.cons (.simple rfl)
        (.nil _)))))
  have hc0 : FormsBetween 0xc0 0xc5 [classRef checkCast, classRef instanceOf, plain monitorEnter,
      plain monitorExit, wide] :=
    .cons (.classRef fun _ _ => .checkCast) (.cons (.classRef fun _ _ => .instanceOf)
      (.cons (.simple rfl) (.cons (.simple rfl) (.cons FormAt.wide (.nil _)))))
  have hc5 : FormsBetween 0xc5 0xc6 [multiArray] := .cons FormAt.multiArray (.nil _)
  have hc6 : FormsBetween 0xc6 0xc8 _ :=
    .family Equality.all Equality.nullOpcode (fun c => jump (ifNull c))
      (fun c => .jump fun _ _ => .ifNull c) rfl rfl
  have hc8 : FormsBetween 0xc8 0xca [wideJump goto, wideJump jsr] :=
    .cons (.wideJump fun _ _ => .gotoWide) (.cons (.wideJump fun _ _ => .jsrWide) (.nil _))
  exact h00 |>.append h01 |>.append h10 |>.append h15 |>.append h1a |>.append h2e |>.append h36
    |>.append h3b |>.append h4f |>.append h57 |>.append h60 |>.append h78 |>.append h7e
    |>.append h84 |>.append h85 |>.append h94 |>.append h95 |>.append h97 |>.append h99
    |>.append h9f |>.append ha5 |>.append ha7 |>.append hac |>.append hb1 |>.append hb6
    |>.append hbb |>.append hc0 |>.append hc5 |>.append hc6 |>.append hc8

namespace Form

variable {opcode : UInt8} {form : Form}

theorem formAt_of_ofOpcode? (h : ofOpcode? opcode = some form) : FormAt opcode form := by
  have := formsBetween_forms.formAt _ _ h
  rwa [Nat.zero_add, UInt8.ofNat_toNat] at this

/-! ## From encodings to forms -/

theorem ofOpcode?_of_simpleOpcode? {i : Instruction} (h : i.simpleOpcode? = some opcode) :
    ofOpcode? opcode = some (.plain i) := by
  cases i with
  | nop | compareLong | returnVoid | arrayLength | throwRef | monitorEnter | monitorExit =>
    cases h
    rfl
  | push c | convert c => cases h; cases c <;> rfl
  | stack op => cases h; cases op <;> rfl
  | arrayLoad type | arrayStore type | returnValue type => cases h; cases type <;> rfl
  | arithmetic op type | shift op type | bitwise op type =>
    cases h; cases op <;> cases type <;> rfl
  | compareFloat nan | compareDouble nan => cases h; cases nan <;> rfl
  | _ => cases h

theorem ofOpcode?_shortSlot (type : LocalType) {slot : UInt8} (h : slot < 4) :
    ofOpcode? (type.shortLoadOpcode + slot) = some (.plain (.load type slot.toUInt16)) ∧
      ofOpcode? (type.shortStoreOpcode + slot) = some (.plain (.store type slot.toUInt16)) := by
  have hslot : slot = 0 ∨ slot = 1 ∨ slot = 2 ∨ slot = 3 := by
    grind
  rcases hslot with rfl | rfl | rfl | rfl <;> cases type <;> exact ⟨rfl, rfl⟩

theorem ofOpcode?_slot (type : LocalType) :
    ofOpcode? type.loadOpcode = some (.slot (.load type)) ∧
      ofOpcode? type.storeOpcode = some (.slot (.store type)) := by
  cases type <;> exact ⟨rfl, rfl⟩

theorem ofOpcode?_comparison (c : Comparison) :
    ofOpcode? c.zeroOpcode = some (.jump (.ifZero c)) ∧
      ofOpcode? c.intsOpcode = some (.jump (.ifInts c)) := by
  cases c <;> exact ⟨rfl, rfl⟩

theorem ofOpcode?_equality (c : Equality) :
    ofOpcode? c.refsOpcode = some (.jump (.ifRefs c)) ∧
      ofOpcode? c.nullOpcode = some (.jump (.ifNull c)) := by
  cases c <;> exact ⟨rfl, rfl⟩

/-- The bytes `w` behind the opcode of a form make the instruction `i`. -/
def Completes (pool : ConstantPool) (start : Nat) (form : Form) (i : Instruction)
    (w : List UInt8) : Prop :=
  form.Operands pool start i w ∨ form = .wide ∧ ∃ opcode form' v,
    ofOpcode? opcode = some form' ∧ form'.WideOperands i v ∧ w = opcode :: v

/-- The bytes `w` are an opcode with what its form asks for. -/
def Makes (pool : ConstantPool) (start : Nat) (i : Instruction) (w : List UInt8) : Prop :=
  ∃ opcode form v, ofOpcode? opcode = some form ∧ Completes pool start form i v ∧ w = opcode :: v

theorem makes {pool : ConstantPool} {start : Nat} {i : Instruction} {v : List UInt8}
    (hform : ofOpcode? opcode = some form) (hv : form.Operands pool start i v) :
    Makes pool start i (opcode :: v) :=
  ⟨opcode, form, v, hform, .inl hv, rfl⟩

theorem makes_wide {pool : ConstantPool} {start : Nat} {i : Instruction} {v : List UInt8}
    (hform : ofOpcode? opcode = some form) (hv : form.WideOperands i v) :
    Makes pool start i (0xc4 :: opcode :: v) :=
  ⟨0xc4, .wide, _, rfl, .inr ⟨rfl, opcode, form, v, hform, hv, rfl⟩, rfl⟩

end Form

open Form in
theorem makes_of_encodes {pool : ConstantPool} {start : Nat} {i : Instruction} {w : List UInt8}
    (h : Encodes pool start i w) : Makes pool start i w := by
  cases h with
  | simple h => exact makes (ofOpcode?_of_simpleOpcode? h) ⟨rfl, rfl⟩
  | pushByte value => exact makes rfl ⟨value, rfl, rfl⟩
  | pushShort value => exact makes rfl ⟨value, rfl, rfl⟩
  | ldc index => exact makes rfl ⟨index, (Writer.u8_eq _).symm, rfl⟩
  | ldcWide index | ldc2 index => exact makes rfl ⟨index, rfl, rfl⟩
  | loadShort type slot h => exact makes (ofOpcode?_shortSlot type h).1 ⟨rfl, rfl⟩
  | storeShort type slot h => exact makes (ofOpcode?_shortSlot type h).2 ⟨rfl, rfl⟩
  | load type slot =>
    exact makes (ofOpcode?_slot type).1 ⟨slot, (Writer.u8_eq _).symm, rfl⟩
  | store type slot =>
    exact makes (ofOpcode?_slot type).2 ⟨slot, (Writer.u8_eq _).symm, rfl⟩
  | loadWide type slot =>
    exact makes_wide (ofOpcode?_slot type).1 ⟨slot, rfl, rfl⟩
  | storeWide type slot =>
    exact makes_wide (ofOpcode?_slot type).2 ⟨slot, rfl, rfl⟩
  | increment slot amount =>
    exact makes rfl ⟨slot, amount, by rw [Writer.u8_eq]; rfl, rfl⟩
  | incrementWide slot amount =>
    exact makes_wide rfl ⟨slot, amount, rfl, rfl⟩
  | ifZero c offset => exact makes (ofOpcode?_comparison c).1 ⟨offset, rfl, rfl⟩
  | ifInts c offset => exact makes (ofOpcode?_comparison c).2 ⟨offset, rfl, rfl⟩
  | ifRefs c offset => exact makes (ofOpcode?_equality c).1 ⟨offset, rfl, rfl⟩
  | ifNull c offset => exact makes (ofOpcode?_equality c).2 ⟨offset, rfl, rfl⟩
  | goto offset | gotoWide offset | jsr offset | jsrWide offset =>
    exact makes rfl ⟨offset, rfl, rfl⟩
  | ret slot => exact makes rfl ⟨slot, (Writer.u8_eq _).symm, rfl⟩
  | retWide slot => exact makes_wide rfl ⟨slot, rfl, rfl⟩
  | tableSwitch pad default low high targets hpad hhigh =>
    refine makes rfl ⟨pad, default, low, high, targets, hpad, hhigh, ?_, rfl⟩
    simp only [List.append_assoc]
  | lookupSwitch pad default count pairs hpad hcount =>
    refine makes rfl ⟨pad, default, count, pairs, hpad, hcount, ?_, rfl⟩
    simp only [List.append_assoc]
  | getStatic field index h | putStatic field index h | getField field index h
  | putField field index h =>
    exact makes rfl ⟨index, field, rfl, h, rfl⟩
  | invokeVirtual method index h | invokeSpecial method index h | invokeStatic method index h =>
    exact makes rfl ⟨index, method, rfl, h, rfl⟩
  | invokeInterface method index count ignored h =>
    refine makes rfl ⟨index, method, count, ignored, ?_, h, rfl⟩
    rw [Writer.u8_eq, Writer.u8_eq]
    rfl
  | invokeDynamic site index a b h =>
    obtain ⟨ignored, hignored⟩ := (exists_u16_eq_iff [a, b]).2 ⟨a, b, rfl⟩
    exact makes rfl ⟨index, site, ignored, by rw [hignored], h, rfl⟩
  | newBaseArray type => exact makes rfl ⟨type, (Writer.u8_eq _).symm, rfl⟩
  | new name index h | newRefArray name index h | checkCast name index h
  | instanceOf name index h =>
    exact makes rfl ⟨index, name, rfl, h, rfl⟩
  | newMultiArray name dimensions index h =>
    refine makes rfl ⟨index, name, dimensions, ?_, h, rfl⟩
    rw [Writer.u8_eq]

/-- The encodings of an instruction, read off the table of forms. -/
theorem encodes_iff {pool : ConstantPool} {start : Nat} {i : Instruction} {w : List UInt8} :
    Encodes pool start i w ↔ Form.Makes pool start i w := by
  refine ⟨makes_of_encodes, ?_⟩
  rintro ⟨opcode, form, _, hform, hv | ⟨rfl, opcode', form', v, hform', hv, rfl⟩, rfl⟩
  · exact (Form.formAt_of_ofOpcode? hform).encodes pool start i _ hv
  · rw [(Form.formAt_of_ofOpcode? hform).escape rfl]
    exact (Form.formAt_of_ofOpcode? hform').encodesWide pool start i v hv

/-! ## Reading -/

namespace Instruction

variable {pool : ConstantPool} {start : Nat}

theorem accepts_readForm (form : Form) :
    Accepts (readOperands pool start form) (form.Completes pool start) := by
  by_cases hwide : form = .wide
  · subst hwide
    rw [readOperands]
    refine accepts_readWide.congr fun i w => ?_
    simp [Form.Completes, Form.Operands]
  · refine (accepts_readOperands form hwide).congr fun i w => ?_
    simp [Form.Completes, hwide]

/-- One instruction is read from just its encodings. -/
theorem accepts_read : Accepts (read pool start) (Encodes pool start) := by
  refine (accepts_opcode fun opcode => ?_).congr fun i w => encodes_iff.symm
  cases hform : Form.ofOpcode? opcode with
  | some form => exact (accepts_readForm form).congr fun i w => by simp
  | none => exact (Accepts.throw _).congr fun i w => by simp

/-! ## Code arrays -/

theorem decodeFrom_nil (offset : Nat) : decodeFrom pool ⟨offset, []⟩ = .ok [] := by
  rw [decodeFrom]
  rfl

theorem decodeFrom_of_read {s s' : ByteStream} {i : Instruction}
    (h : read pool s.offset s = .ok i s') :
    decodeFrom pool s = (decodeFrom pool s').map (i :: ·) := by
  -- an instruction takes at least its opcode, so something was left
  have hne : ¬ s.rest.isEmpty := by
    have := length_lt_of_read h
    rw [List.isEmpty_iff_length_eq_zero]
    omega
  rw [decodeFrom, if_neg hne]
  split
  · simp_all
  · rename_i j s₁ hj
    obtain ⟨rfl, rfl⟩ : j = i ∧ s₁ = s' := by simpa [h] using hj.symm
    split <;> simp_all [Except.map]

theorem decodeFrom_of_read_error {s s' : ByteStream} {e : CodeError} (hne : s.rest ≠ [])
    (h : read pool s.offset s = .error e s') : decodeFrom pool s = .error e := by
  rw [decodeFrom, if_neg (by rwa [List.isEmpty_iff])]
  split <;> simp_all

/-- What encodings give is settled before anything behind them is looked at. -/
theorem decodeFrom_append {offset : Nat} {is : List Instruction} {u : List UInt8}
    (h : EncodesAll pool offset is u) (v : List UInt8) :
    decodeFrom pool ⟨offset, u ++ v⟩ =
      (decodeFrom pool ⟨offset + u.length, v⟩).map (is ++ ·) := by
  induction h with
  | nil offset =>
    rw [List.nil_append, List.length_nil, Nat.add_zero]
    cases decodeFrom pool ⟨offset, v⟩ with
    | ok l => rfl
    | error e => rfl
  | @cons offset i is w rest hi his ih =>
    rw [List.append_assoc, decodeFrom_of_read (accepts_read.reads _ _ hi _ _), ih,
      List.length_append, ← Nat.add_assoc]
    cases decodeFrom pool ⟨offset + w.length + rest.length, v⟩ with
    | ok l => rfl
    | error e => rfl

theorem decodeFrom_of_encodesAll {offset : Nat} {is : List Instruction} {code : List UInt8}
    (h : EncodesAll pool offset is code) : decodeFrom pool ⟨offset, code⟩ = .ok is := by
  induction h with
  | nil offset => exact decodeFrom_nil offset
  | cons hi his ih =>
    rw [decodeFrom_of_read (accepts_read.reads _ _ hi _ _), ih]
    rfl

theorem encodesAll_of_decodeFrom {s : ByteStream} {is : List Instruction}
    (h : decodeFrom pool s = .ok is) : EncodesAll pool s.offset is s.rest := by
  fun_induction decodeFrom pool s generalizing is with
  | case1 s hempty =>
    cases h
    rw [List.isEmpty_iff.1 hempty]
    exact .nil _
  | case2 s hne e s' hread => cases h
  | case3 s hne i s' hread hlt e hrest ih => cases h
  | case4 s hne i s' hread hlt is' hrest ih =>
    cases h
    -- the bytes that were taken are the first encoding, and the rest starts where they end
    obtain ⟨w, hw, hrest', hoffset⟩ := accepts_read.sound _ _ _ hread
    rw [hrest']
    refine .cons hw ?_
    rw [← hoffset]
    exact ih hrest

/-- A code array decodes to a list of instructions exactly if it is made of their encodings, each
at the offset at which it stands. -/
theorem decode_eq_ok_iff (pool : ConstantPool) (code : List UInt8) (is : List Instruction) :
    decode pool code = .ok is ↔ EncodesAll pool 0 is code :=
  ⟨encodesAll_of_decodeFrom, decodeFrom_of_encodesAll⟩

end Instruction

end CtorLeak
