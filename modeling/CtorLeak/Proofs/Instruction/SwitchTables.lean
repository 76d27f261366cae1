import CtorLeak.Proofs.Instruction.Faults

/-!
# Tables of switches

How many entries the table of a switch has is up to the code: any two bounds, or any count.  The
number is computed and checked in words before the table is read.  `TableChecked` says what such a
check comes to: it is about the number that is meant, where it passes no read of the table fails,
and where it does not there is no such table in what is left of the code.

Behind the header of a switch there is nothing else that can fail (`Settles`).  A table switch that
is decoded has bounds that both fit in 32 bits, though only the lower one is kept.
-/

namespace CtorLeak.Instruction

open Reader

variable {α : Type} {pool : ConstantPool} {start : Nat}

/-! ## Checks of tables -/

/-- The `n` entries at `s` are read, each of them by a read that succeeds. -/
structure TableRead (start : Nat) (s : ByteStream) (r : Reader ReadError α) (size n : Nat)
    (entries : List α) : Prop where
  length_eq : entries.length = n
  table : operand start (times n r) s = .ok entries (s.skip (n * size))
  entry : ∀ k < n, ∃ a, entries[k]? = some a ∧
    operand start r (s.skip (k * size)) = .ok a (s.skip ((k + 1) * size))
  /-- An entry is one number or two. -/
  word : ∀ k, (k + 1) * 4 ≤ n * size →
    ∃ a, operand start i32 (s.skip (k * 4)) = .ok a (s.skip ((k + 1) * 4))

/-- The check of the table at `s`, which is to have `count` entries of `size` bytes; `word` is what
was computed for `count`. -/
structure TableChecked (start : Nat) (s : ByteStream) (r : Reader ReadError α) (size : UInt64)
    (word : Int64) (count : Int) : Prop where
  count_eq : word.toInt = count
  size_eq : ∀ n : Nat, count = n → (tableSize word.toUInt64 size).toNat = n * size.toNat
  passed : ∀ n s', entryCount start word size s = .ok n s' →
    s' = s ∧ count = n ∧ n * size.toNat ≤ s.rest.length ∧
      ∃ entries, TableRead start s r size.toNat n entries
  refused : ∀ e s', entryCount start word size s = .error e s' →
    s' = s ∧ e = .truncated start ∧ (count < 0 ∨ ∃ n : Nat, count = n ∧
      s.rest.length < n * size.toNat ∧ ∃ t, operand start (times n r) s = .error e t)

theorem operand_of_eq_ok {r : Reader ReadError α} {s s' : ByteStream} {a : α}
    (h : r s = .ok a s') : operand start r s = .ok a s' := by
  rw [operand, EStateM.adaptExcept, h]

theorem exists_tableRead {r : Reader ReadError α} {size n : Nat} {s : ByteStream}
    (hr : Takes (fun _ => True) size r) (h : n * size ≤ s.rest.length) :
    ∃ entries, TableRead start s r size n entries := by
  obtain ⟨entries, htable, hlength, hrounds⟩ := hr.rounds n h
  refine ⟨entries, hlength, operand_of_eq_ok htable, ?_, ?_⟩
  · intro k hk
    obtain ⟨a, ha, hread⟩ := hrounds k hk
    exact ⟨a, ha, operand_of_eq_ok hread⟩
  · intro k hk
    -- the numbers of a table are a table themselves
    obtain ⟨_, -, -, hwords⟩ := Takes.i32.rounds (k + 1) (Nat.le_trans hk h)
    obtain ⟨a, -, hread⟩ := hwords k (Nat.lt_succ_self k)
    exact ⟨a, operand_of_eq_ok hread⟩

theorem toNat_toUInt64_of_toInt_eq {word : Int64} {n : Nat} (h : word.toInt = n) :
    word.toUInt64.toNat = n := by
  have hneg : ¬ word < 0 := by
    rw [Int64.lt_iff_toInt_lt, h, Int64.toInt_zero]
    omega
  rwa [← natCast_toNat_toUInt64 hneg, Int.ofNat_inj] at h

/-- A number of bytes that fits in a word is not cut down to the largest. -/
theorem min_of_fits {count : Int} {size n : Nat} (hfits : count * size < UInt64.size)
    (hn : count = n) : min (n * size) (UInt64.size - 1) = n * size := by
  rw [hn] at hfits
  omega

/-- The check is right about every table whose number of bytes fits in a word. -/
theorem tableChecked (size : UInt64) {r : Reader ReadError α}
    (hr : Takes (fun _ => True) size.toNat r) {word : Int64} {count : Int}
    (hcount : word.toInt = count) (hfits : count * size.toNat < UInt64.size) (s : ByteStream) :
    TableChecked start s r size word count where
  count_eq := hcount
  size_eq n hn := by
    rw [toNat_tableSize, toNat_toUInt64_of_toInt_eq (hcount.trans hn), min_of_fits hfits hn]
  passed n s' h := by
    obtain ⟨m, hm, hroom, hok⟩ | ⟨-, herror⟩ := entryCount_cases start word size s
    · cases hok.symm.trans h
      rw [hcount] at hm
      rw [min_of_fits hfits hm] at hroom
      exact ⟨rfl, hm, hroom, exists_tableRead hr hroom⟩
    · cases herror.symm.trans h
  refused e s' h := by
    obtain ⟨m, -, -, hok⟩ | ⟨hshort, herror⟩ := entryCount_cases start word size s
    · cases hok.symm.trans h
    · cases herror.symm.trans h
      rw [hcount] at hshort
      refine ⟨rfl, rfl, hshort.imp_right ?_⟩
      rintro ⟨n, hn, hlt⟩
      rw [min_of_fits hfits hn] at hlt
      have htable : Takes (· = .truncated start) _ (operand start (times n r)) :=
        takes_operand (hr.times n)
      obtain ⟨e, t, hfail, rfl⟩ := htable.short s hlt
      exact ⟨n, hn, hlt, t, hfail⟩

theorem tableChecked_tableSwitch (low high : Int32) (s : ByteStream) :
    TableChecked start s i32 4 (targetCount low high) (high.toInt - low.toInt + 1) := by
  have := low.le_toInt
  have := high.toInt_lt
  refine tableChecked 4 Takes.i32 (toInt_targetCount low high) ?_ s
  change (high.toInt - low.toInt + 1) * 4 < 18446744073709551616
  omega

theorem tableChecked_lookupSwitch (count : Int32) (s : ByteStream) :
    TableChecked start s keyedTarget 8 count.toInt64 count.toInt := by
  have := count.toInt_lt
  refine tableChecked 8 takes_keyedTarget (Int32.toInt_toInt64 count) ?_ s
  change count.toInt * 8 < 18446744073709551616
  omega

/-! ## Switches behind their headers -/

/-- How a switch ends whose table is at `s`, by how the check of the table ends.  There is no way to
fail once the check has passed. -/
inductive Settles (size : Nat) (make : List α → Instruction) (s : ByteStream) :
    EStateM.Result CodeError ByteStream Nat → EStateM.Result CodeError ByteStream Instruction →
    Prop where
  | passed (entries : List α) :
      Settles size make s (.ok entries.length s)
        (.ok (make entries) (s.skip (entries.length * size)))
  | refused (e : CodeError) : Settles size make s (.error e s) (.error e s)

theorem Settles.eq_of_refused {size : Nat} {make : List α → Instruction} {s s' : ByteStream}
    {e : CodeError} {x : EStateM.Result CodeError ByteStream Nat}
    {y : EStateM.Result CodeError ByteStream Instruction} (h : Settles size make s x y)
    (hx : x = .error e s') : y = .error e s' := by
  cases h with
  | passed entries => cases hx
  | refused e => cases hx; rfl

/-- Behind the bytes `w`, how `switch` ends is settled by `check`. -/
def SettledBehind (w : List UInt8) (size : Nat) (make : List α → Instruction)
    (check : Reader CodeError Nat) (switch : Reader CodeError Instruction) : Prop :=
  ∀ offset rest, Settles size make ⟨offset + w.length, rest⟩ (check ⟨offset + w.length, rest⟩)
    (switch ⟨offset, w ++ rest⟩)

theorem settles_of_tableChecked {r : Reader ReadError α} {size : UInt64} {word : Int64}
    {count : Int} {s : ByteStream} (h : TableChecked start s r size word count)
    (make : List α → Instruction) :
    Settles size.toNat make s (entryCount start word size s)
      ((do
        let n ← entryCount start word size
        let l ← operand start (times n r)
        return make l) s) := by
  cases hcheck : entryCount start word size s with
  | ok n s' =>
    obtain ⟨rfl, -, -, entries, hread⟩ := h.passed n s' hcheck
    have htable := hread.table
    obtain rfl := hread.length_eq
    rw [bind_of_eq_ok _ hcheck, bind_of_eq_ok _ htable]
    exact .passed entries
  | error e s' =>
    obtain ⟨rfl, -⟩ := h.refused e s' hcheck
    rw [bind_of_eq_error _ hcheck]
    exact .refused e

/-- The opcode in front of a header gives the form of the operands, and nothing more. -/
theorem SettledBehind.read {opcode : UInt8} {form : Form} {w : List UInt8} {size : Nat}
    {make : List α → Instruction} {check : Reader CodeError Nat}
    (hform : Form.ofOpcode? opcode = some form)
    (h : SettledBehind w size make check (readOperands pool start form)) :
    SettledBehind (opcode :: w) size make check (read pool start) := by
  intro offset rest
  have hopcode : u8 ⟨offset, opcode :: w ++ rest⟩ = .ok opcode ⟨offset + 1, w ++ rest⟩ := by
    simpa [Writer.u8_eq] using accepts_u8.reads_write opcode offset (w ++ rest)
  have hread : Instruction.read pool start ⟨offset, opcode :: w ++ rest⟩ =
      readOperands pool start form ⟨offset + 1, w ++ rest⟩ := by
    rw [Instruction.read, bind_of_eq_ok _ (operand_of_eq_ok hopcode), hform]
  have hoffset : offset + (opcode :: w).length = offset + 1 + w.length := by
    rw [List.length_cons]
    omega
  rw [hread, hoffset]
  exact h (offset + 1) rest

/-- What stands between the opcode of a table switch and its table. -/
def tableHeader (pad : List UInt8) (default low high : Int32) : List UInt8 :=
  pad ++ (Writer.i32 default ++ (Writer.i32 low ++ Writer.i32 high))

/-- What stands between the opcode of a lookup switch and its table. -/
def lookupHeader (pad : List UInt8) (default count : Int32) : List UInt8 :=
  pad ++ (Writer.i32 default ++ Writer.i32 count)

theorem reads_padding {pad : List UInt8} (h : IsPadding start pad) :
    Reads (operand start (run (padding start))) pad pad :=
  accepts_padding.reads pad pad ⟨h, rfl⟩

theorem reads_operand_i32 (a : Int32) : Reads (operand start i32) a (Writer.i32 a) :=
  (accepts_i32.reads_write a).adaptExcept _

theorem settledBehind_tableHeader {pad : List UInt8} (hpad : IsPadding start pad)
    (default low high : Int32) :
    SettledBehind (tableHeader pad default low high) 4 (tableSwitch default low)
      (entryCount start (targetCount low high) 4) (readTableSwitch start) := by
  intro offset rest
  simp only [tableHeader, List.length_append, List.append_assoc, ← Nat.add_assoc]
  rw [readTableSwitch, bind_of_eq_ok _ (reads_padding hpad _ _),
    bind_of_eq_ok _ (reads_operand_i32 default _ _), bind_of_eq_ok _ (reads_operand_i32 low _ _),
    bind_of_eq_ok _ (reads_operand_i32 high _ _)]
  exact settles_of_tableChecked (tableChecked_tableSwitch low high _) (tableSwitch default low)

theorem settledBehind_lookupHeader {pad : List UInt8} (hpad : IsPadding start pad)
    (default count : Int32) :
    SettledBehind (lookupHeader pad default count) 8 (lookupSwitch default)
      (entryCount start count.toInt64 8) (readLookupSwitch start) := by
  intro offset rest
  simp only [lookupHeader, List.length_append, List.append_assoc, ← Nat.add_assoc]
  rw [readLookupSwitch, bind_of_eq_ok _ (reads_padding hpad _ _),
    bind_of_eq_ok _ (reads_operand_i32 default _ _),
    bind_of_eq_ok _ (reads_operand_i32 count _ _)]
  exact settles_of_tableChecked (tableChecked_lookupSwitch count _) (lookupSwitch default)

/-! ## Bounds of table switches -/

theorem exists_encodes_of_mem {offset : Nat} {is : List Instruction}
    {code : List UInt8} (h : EncodesAll pool offset is code) {i : Instruction} (hi : i ∈ is) :
    ∃ start w, Encodes pool start i w := by
  induction h with
  | nil offset => cases hi
  | @cons offset j is w rest hj his ih =>
    rcases List.mem_cons.1 hi with rfl | hi
    · exact ⟨offset, w, hj⟩
    · exact ih hi

/-- The upper bound of a table switch follows from what is kept of it, and it is a number that was
written in 32 bits. -/
theorem exists_high_of_encodes {default low : Int32} {targets : List Int32} {w : List UInt8}
    (h : Encodes pool start (.tableSwitch default low targets) w) :
    ∃ high : Int32, high.toInt = low.toInt + targets.length - 1 := by
  cases h with
  | simple h => cases h
  | tableSwitch pad default low high targets hpad hhigh => exact ⟨high, hhigh⟩

/-! ## Top theorem -/

/-- Tables of switches are checked before they are read, whatever the numbers in front of them, at
every place of a code array.  The numbers of entries are computed exactly, and a switch ends as the
check of its table does.  The upper bound of a table switch that is decoded is a number of 32
bits. -/
theorem switch_tables_checked (pool : ConstantPool) (start : Nat)
    (default low high count : Int32) :
    (high.toInt64 - low.toInt64).toInt = high.toInt - low.toInt ∧
    (∀ s, TableChecked start s i32 4 (targetCount low high) (high.toInt - low.toInt + 1)) ∧
    (∀ s, TableChecked start s keyedTarget 8 count.toInt64 count.toInt) ∧
    (∀ pad, IsPadding start pad →
      SettledBehind (0xaa :: tableHeader pad default low high) 4 (tableSwitch default low)
        (entryCount start (targetCount low high) 4) (read pool start) ∧
      SettledBehind (0xab :: lookupHeader pad default count) 8 (lookupSwitch default)
        (entryCount start count.toInt64 8) (read pool start)) ∧
    ∀ code is, decode pool code = .ok is → ∀ targets, tableSwitch default low targets ∈ is →
      -2147483648 ≤ low.toInt + targets.length - 1 ∧
        low.toInt + targets.length - 1 ≤ 2147483647 := by
  refine ⟨toInt_sub_toInt64 low high, tableChecked_tableSwitch low high,
    tableChecked_lookupSwitch count, ?_, ?_⟩
  · intro pad hpad
    exact ⟨.read rfl (settledBehind_tableHeader hpad default low high),
      .read rfl (settledBehind_lookupHeader hpad default count)⟩
  · intro code is hdecode targets hmem
    obtain ⟨_, _, hencodes⟩ := exists_encodes_of_mem (encodesAll_of_decodeFrom hdecode) hmem
    obtain ⟨high, hhigh⟩ := exists_high_of_encodes hencodes
    have := high.le_toInt
    have := high.toInt_lt
    omega

/-- A table switch whose only key is the largest number. -/
def topKeySwitch : List UInt8 :=
  [0xaa, 0, 0, 0, 0, 0, 0, 7, 0x7f, 0xff, 0xff, 0xff, 0x7f, 0xff, 0xff, 0xff, 0, 0, 0, 9]

theorem switch_tables_checked_topKeySwitch :
    (entryCount 0 (targetCount 2147483647 2147483647) 4 ⟨16, [0, 0, 0, 9]⟩ =
        .ok 1 ⟨16, [0, 0, 0, 9]⟩ ∧
      ∃ entries, TableRead 0 ⟨16, [0, 0, 0, 9]⟩ i32 4 1 entries) ∧
    (entryCount 0 (targetCount (-2147483648) 2147483647) 4 ⟨16, [0, 0, 0, 9]⟩ =
        .error (.truncated 0) ⟨16, [0, 0, 0, 9]⟩ ∧
      (∃ t, operand 0 (times 4294967296 i32) ⟨16, [0, 0, 0, 9]⟩ = .error (.truncated 0) t) ∧
      read .empty 0 ⟨0, 0xaa :: tableHeader [0, 0, 0] 7 (-2147483648) 2147483647 ++ [0, 0, 0, 9]⟩ =
        .error (.truncated 0) ⟨16, [0, 0, 0, 9]⟩) ∧
    decode .empty topKeySwitch = .ok [.tableSwitch 7 2147483647 [9]] ∧
    (2147483647 : Int32).toInt + ([9] : List Int32).length - 1 ≤ 2147483647 := by
  have hone : entryCount 0 (targetCount 2147483647 2147483647) 4 ⟨16, [0, 0, 0, 9]⟩ =
      .ok 1 ⟨16, [0, 0, 0, 9]⟩ := rfl
  have hmany : entryCount 0 (targetCount (-2147483648) 2147483647) 4 ⟨16, [0, 0, 0, 9]⟩ =
      .error (.truncated 0) ⟨16, [0, 0, 0, 9]⟩ := rfl
  have hswitch : Encodes .empty 0 (.tableSwitch 7 2147483647 [9]) topKeySwitch :=
    .tableSwitch [0, 0, 0] 7 2147483647 2147483647 [9] ⟨by decide, by decide⟩ (by decide)
  have hdecode : decode .empty topKeySwitch = .ok [.tableSwitch 7 2147483647 [9]] :=
    decodeFrom_of_encodesAll (.cons hswitch (.nil _))
  obtain ⟨-, htable, -, -, hbounds⟩ :=
    switch_tables_checked .empty 0 7 2147483647 2147483647 (-1)
  obtain ⟨-, htable', -, hheader, -⟩ :=
    switch_tables_checked .empty 0 7 (-2147483648) 2147483647 (-1)
  obtain ⟨-, -, -, hread⟩ := (htable _).passed _ _ hone
  have hsettled := ((hheader [0, 0, 0] ⟨by decide, by decide⟩).1 0 [0, 0, 0, 9]).eq_of_refused hmany
  obtain ⟨-, -, hneg | ⟨n, hn, -, hfail⟩⟩ := (htable' _).refused _ _ hmany
  · exact absurd hneg (by decide)
  · have hcount : n = 4294967296 := Int.ofNat_inj.1 hn.symm
    rw [hcount] at hfail
    exact ⟨⟨hone, hread⟩, ⟨hmany, hfail, hsettled⟩, hdecode,
      (hbounds _ _ hdecode _ (List.mem_singleton.2 rfl)).2⟩

end CtorLeak.Instruction
