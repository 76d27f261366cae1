import CtorLeak.Escape.Site
import CtorLeak.Proofs.Bytes.Framing
import CtorLeak.Proofs.Descriptor.Grammar

/-!
# Descriptors that are too short or too long

A descriptor says where it ends.  If its last characters are missing, the reader runs into the end
of the text, wherever the cut is (`EndsEarly`, `NeedsAll`), and if characters follow it, the reader
of whole texts names the first of them.  No other fault can come up: what is read before a cut is
the same as without it.

Only the empty text is no beginning of the descriptor of a method.  It lacks the parenthesis that
tells such a descriptor from others.
-/

namespace CtorLeak

open DescriptorReader
open Reader (cut_cases)

namespace DescriptorReader

variable {α β : Type} {p : DescriptorReader α} {s : List Char}

/-- The answer for a text whose last characters are missing. -/
def CutShort (answer : Except DescriptorError α) : Prop :=
  ∃ e, answer = .error e ∧ e.kind = .endOfText

/-- The answer for a text that goes on with `c` where it should have ended. -/
def LeavesOver (answer : Except DescriptorError α) (c : Char) : Prop :=
  ∃ e, answer = .error e ∧ e.kind = .invalid ∧ e.message = s!"Unexpected leftover input '{c}'"

/-- More text could have helped `p`. -/
def EndsEarly (p : DescriptorReader α) (s : List Char) : Prop :=
  ∃ e rest, p s = .error e rest ∧ e.kind = .endOfText

/-- Every proper beginning of `w` is too short for `p`. -/
def NeedsAll (p : DescriptorReader α) (w : List Char) : Prop :=
  ∀ u v, w = u ++ v → v ≠ [] → EndsEarly p u

theorem EndsEarly.map (f : α → β) (h : EndsEarly p s) : EndsEarly (f <$> p) s := by
  obtain ⟨e, rest, hfail, hkind⟩ := h
  exact ⟨e, rest, by simp only [Functor.map, EStateM.map, hfail], hkind⟩

theorem EndsEarly.parseAll {text : String} (h : EndsEarly p text.toList) :
    CutShort (p.parseAll text) := by
  obtain ⟨e, rest, hfail, hkind⟩ := h
  exact ⟨e, by rw [DescriptorReader.parseAll, hfail], hkind⟩

/-- One character cannot be cut. -/
theorem eq_nil_of_singleton_eq_append {c : Char} {u v : List Char} (h : [c] = u ++ v)
    (hv : v ≠ []) : u = [] := by
  rcases List.singleton_eq_append_iff.1 h with ⟨hu, -⟩ | ⟨-, hnil⟩
  · exact hu
  · exact absurd hnil hv

theorem NeedsAll.singleton (c : Char) (h : EndsEarly p []) : NeedsAll p [c] := by
  intro u v heq hv
  rwa [eq_nil_of_singleton_eq_append heq hv]

/-- A reader whose texts end where they end leaves what follows them. -/
theorem Exact.parseAll_longer {Valid : α → Prop} {render : α → List Char}
    (h : Exact p Valid render) {text : String} {t : α} (ht : p.parseAll text = .ok t) (c : Char)
    (r : String) : LeavesOver (p.parseAll (text ++ String.singleton c ++ r)) c := by
  obtain ⟨hvalid, htext⟩ := (h.recognizes.parseAll_iff text t).1 ht
  have hread : p (text ++ String.singleton c ++ r).toList = .ok t (c :: r.toList) := by
    rw [h, String.toList_append, String.toList_append, String.toList_singleton, htext,
      List.append_assoc]
    exact ⟨hvalid, rfl⟩
  exact ⟨.leftover c, by rw [parseAll, hread], rfl, rfl⟩

end DescriptorReader

/-! ## Classes -/

/-- Without its `;` the name of a class has no end. -/
theorem BinaryName.endsEarly_parse {name : BinaryName} (hname : name.HasDescriptor)
    {u v : List Char} (heq : name.text.toList ++ [';'] = u ++ v) (hv : v ≠ []) :
    EndsEarly BinaryName.parse ('L' :: u) := by
  have hsub : ∀ c ∈ u, c ∈ name.text.toList := by
    intro c hc
    rcases cut_cases heq with ⟨x, -, htext⟩ | ⟨x, rfl, hx⟩
    · rw [htext]
      exact List.mem_append_left x hc
    · rwa [eq_nil_of_singleton_eq_append hx hv, List.append_nil] at hc
  have hall : ∀ c ∈ u, (c != ';') = true := by
    intro c hc
    rw [bne_iff_ne]
    rintro rfl
    exact hname (hsub _ hc)
  have hspan : u.takeWhile (· != ';') = u ∧ u.dropWhile (· != ';') = [] :=
    span_eq_iff.2 ⟨(List.append_nil u).symm, hall, nofun⟩
  refine ⟨.unterminatedClass (String.ofList u), [], ?_, rfl⟩
  simp only [parse, hspan.1, hspan.2]

/-! ## References and fields -/

theorem RefType.endsEarly_brackets (n : Nat) :
    EndsEarly RefType.parse (List.replicate n '[') := by
  cases n with
  | zero => exact ⟨_, _, rfl, rfl⟩
  | succ extra =>
    have harray := parse_array (q := []) extra nofun
    rw [List.append_nil, if_neg nofun] at harray
    exact ⟨_, _, harray, rfl⟩

/-- A cut in an array type falls between its brackets or in the type of its elements. -/
theorem RefType.endsEarly_array {q : List Char} {extra : Nat}
    (helement : ∀ u v, q = u ++ v → u ≠ [] → v ≠ [] →
      EndsEarly RefType.parse (List.replicate (extra + 1) '[' ++ u)) :
    NeedsAll RefType.parse (List.replicate (extra + 1) '[' ++ q) := by
  intro u v heq hv
  rcases cut_cases heq with ⟨x, -, hu⟩ | ⟨x, rfl, hx⟩
  · obtain ⟨-, hreplicate, -⟩ := List.replicate_eq_append_iff.1 hu
    rw [hreplicate]
    exact endsEarly_brackets _
  · by_cases hnil : x = []
    · subst hnil
      rw [List.append_nil]
      exact endsEarly_brackets _
    · exact helement x v hx hnil hv

theorem RefType.needsAll_parse {t : RefType} (ht : t.HasDescriptor) :
    NeedsAll RefType.parse t.render := by
  cases t with
  | object name =>
    intro u v heq hv
    cases u with
    | nil => exact ⟨_, _, rfl, rfl⟩
    | cons c u =>
      obtain ⟨rfl, htail⟩ := List.cons.inj heq
      exact (BinaryName.endsEarly_parse ht htail hv).map object
  | objectArray extra name =>
    refine endsEarly_array ?_
    intro u v heq hu hv
    cases u with
    | nil => exact absurd rfl hu
    | cons c u =>
      obtain ⟨rfl, htail⟩ := List.cons.inj heq
      unfold EndsEarly
      rw [parse_array extra (by simp), if_pos (by simp)]
      exact (BinaryName.endsEarly_parse ht htail hv).map (objectArray extra)
  | baseArray extra base =>
    refine endsEarly_array ?_
    intro u v heq hu hv
    exact absurd (eq_nil_of_singleton_eq_append heq hv) hu

theorem FieldType.endsEarly_parse {s : List Char} (h : EndsEarly RefType.parse s) :
    EndsEarly FieldType.parse s := by
  cases s with
  | nil => exact ⟨_, _, rfl, rfl⟩
  | cons c cs =>
    cases hletter : BaseType.ofLetter? c with
    | none =>
      unfold EndsEarly
      rw [parse, hletter]
      exact h.map ref
    | some b =>
      -- a base type is no reference, however the text goes on
      obtain ⟨e, rest, hfail, hkind⟩ := h
      obtain rfl := BaseType.ofLetter?_eq_some_iff.1 hletter
      have hne := b.letter_ne
      rw [RefType.parse] at hfail
      · cases hfail
        cases hkind
      · simp_all
      · simp_all

theorem FieldType.needsAll_parse {t : FieldType} (ht : t.HasDescriptor) :
    NeedsAll FieldType.parse t.render := by
  cases t with
  | base b => exact NeedsAll.singleton b.letter ⟨_, _, rfl, rfl⟩
  | ref type =>
    intro u v heq hv
    exact endsEarly_parse (RefType.needsAll_parse ht u v heq hv)

/-! ## Methods -/

namespace MethodDescriptor

theorem parseParameters_of_error {s rest : List Char} {e : DescriptorError} (hs : ')' ∉ s.head?)
    (h : FieldType.parse s = .error e rest) : parseParameters s = .error e rest := by
  rw [parseParameters]
  · split <;> simp_all
  · rintro rest rfl
    simp at hs

theorem parseParameters_of_parse_error {s rest rest' : List Char} {t : FieldType}
    {e : DescriptorError} (ht : FieldType.parse s = .ok t rest)
    (hts : parseParameters rest = .error e rest') : parseParameters s = .error e rest' := by
  obtain ⟨-, rfl⟩ := (FieldType.exact_parse _ _ _).1 ht
  obtain ⟨c, cs, heq, hc, -⟩ := t.exists_render_eq
  rw [heq, List.cons_append] at ht ⊢
  rw [parseParameters]
  · split <;> simp_all
  · intro rest h
    exact hc (List.cons.inj h).1

/-- A cut in the first parameter. -/
theorem endsEarly_parseParameters {s : List Char} (h : EndsEarly FieldType.parse s) :
    EndsEarly parseParameters s := by
  obtain ⟨e, rest, hfail, hkind⟩ := h
  refine ⟨e, rest, parseParameters_of_error ?_ hfail, hkind⟩
  -- a parenthesis is another fault
  intro hs
  obtain ⟨tail, rfl⟩ := List.head?_eq_some_iff.1 hs
  cases hfail
  cases hkind

theorem endsEarly_parseResult {s : List Char} (h : EndsEarly FieldType.parse s) :
    EndsEarly parseResult s := by
  obtain ⟨e, rest, hfail, hkind⟩ := h
  unfold EndsEarly
  rw [parseResult]
  · exact EndsEarly.map some ⟨e, rest, hfail, hkind⟩
  · rintro tail rfl
    cases hfail
    cases hkind

theorem needsAll_parseParameters {ts : List FieldType} (hts : ∀ t ∈ ts, t.HasDescriptor) :
    NeedsAll parseParameters (ts.flatMap FieldType.render ++ [')']) := by
  induction ts with
  | nil => exact NeedsAll.singleton ')' (endsEarly_parseParameters ⟨_, _, rfl, rfl⟩)
  | cons t ts ih =>
    rw [List.forall_mem_cons] at hts
    rw [List.flatMap_cons, List.append_assoc]
    intro u v heq hv
    rcases cut_cases heq with ⟨x, hx, ht⟩ | ⟨x, rfl, hrest⟩
    · exact endsEarly_parseParameters (FieldType.needsAll_parse hts.1 u x ht hx)
    · obtain ⟨e, rest, hfail, hkind⟩ := ih hts.2 x v hrest hv
      have hread : FieldType.parse (t.render ++ x) = .ok t x :=
        (FieldType.exact_parse _ _ _).2 ⟨hts.1, rfl⟩
      exact ⟨e, rest, parseParameters_of_parse_error hread hfail, hkind⟩

theorem needsAll_parseResult {result : Option FieldType}
    (hresult : ∀ t ∈ result, t.HasDescriptor) :
    NeedsAll parseResult ((result.map FieldType.render).getD ['V']) := by
  cases result with
  | none => exact NeedsAll.singleton 'V' ⟨_, _, rfl, rfl⟩
  | some t =>
    intro u v heq hv
    exact endsEarly_parseResult (FieldType.needsAll_parse (hresult t rfl) u v heq hv)

/-- Behind its parenthesis, the descriptor of a method is needed as a whole. -/
theorem endsEarly_parse {d : MethodDescriptor} (hd : d.HasDescriptor) {u v : List Char}
    (heq : d.render = '(' :: u ++ v) (hv : v ≠ []) :
    EndsEarly MethodDescriptor.parse ('(' :: u) := by
  have hsplit : (d.parameters.flatMap FieldType.render ++ [')']) ++
      (d.result.map FieldType.render).getD ['V'] = u ++ v := by
    simpa [render] using heq
  unfold EndsEarly
  rw [parse]
  rcases cut_cases hsplit with ⟨x, hx, hparameters⟩ | ⟨x, rfl, hresult⟩
  · obtain ⟨e, rest, hfail, hkind⟩ := needsAll_parseParameters hd.1 u x hparameters hx
    rw [hfail]
    exact ⟨e, rest, rfl, hkind⟩
  · have hread : parseParameters (d.parameters.flatMap FieldType.render ++ [')'] ++ x) =
        .ok d.parameters x :=
      parseParameters_eq_ok_iff.2 ⟨hd.1, by rw [List.append_assoc]; rfl⟩
    rw [hread]
    exact (needsAll_parseResult hd.2 x v hresult hv).map _

end MethodDescriptor

/-! ## Whole texts -/

theorem toList_ne_nil {text : String} (h : text ≠ "") : text.toList ≠ [] := by
  intro hnil
  exact h (String.toList_eq_nil_iff.1 hnil)

theorem FieldType.ofDescriptor_cut {text u v : String} {t : FieldType}
    (ht : FieldType.ofDescriptor text = .ok t) (heq : text = u ++ v) (hv : v ≠ "") :
    CutShort (FieldType.ofDescriptor u) := by
  obtain ⟨hvalid, htext⟩ := (FieldType.exact_parse.recognizes.parseAll_iff text t).1 ht
  rw [heq, String.toList_append] at htext
  exact (needsAll_parse hvalid u.toList v.toList htext.symm (toList_ne_nil hv)).parseAll

theorem MethodDescriptor.ofDescriptor_cut {text u v : String} {d : MethodDescriptor}
    (hd : MethodDescriptor.ofDescriptor text = .ok d) (heq : text = u ++ v) (hu : u ≠ "")
    (hv : v ≠ "") : CutShort (MethodDescriptor.ofDescriptor u) := by
  obtain ⟨hvalid, htext⟩ := (MethodDescriptor.exact_parse.recognizes.parseAll_iff text d).1 hd
  rw [heq, String.toList_append] at htext
  cases hlist : u.toList with
  | nil => exact absurd hlist (toList_ne_nil hu)
  | cons c cs =>
    rw [hlist] at htext
    obtain rfl : c = '(' := (List.cons.inj htext).1
    have hearly := endsEarly_parse hvalid htext.symm (toList_ne_nil hv)
    rw [← hlist] at hearly
    exact hearly.parseAll

/-- Around a descriptor that is read, everything shorter is found to end early, and everything
longer to go on.  Either way a call with such a descriptor counts as one without arguments. -/
theorem ofDescriptor_cut_or_longer :
    (∀ text t, FieldType.ofDescriptor text = .ok t →
      (∀ u v, text = u ++ v → v ≠ "" → CutShort (FieldType.ofDescriptor u)) ∧
      ∀ c r, LeavesOver (FieldType.ofDescriptor (text ++ String.singleton c ++ r)) c) ∧
    ∀ text d, MethodDescriptor.ofDescriptor text = .ok d →
      (∀ u v, text = u ++ v → u ≠ "" → v ≠ "" → CutShort (MethodDescriptor.ofDescriptor u)) ∧
      (∀ c r, LeavesOver (MethodDescriptor.ofDescriptor (text ++ String.singleton c ++ r)) c) ∧
      (∀ u v, text = u ++ v → v ≠ "" → argumentCount u = 0) ∧
      ∀ c r, argumentCount (text ++ String.singleton c ++ r) = 0 := by
  constructor
  · intro text t ht
    exact ⟨fun u v => FieldType.ofDescriptor_cut ht, FieldType.exact_parse.parseAll_longer ht⟩
  · intro text d hd
    have hlonger := MethodDescriptor.exact_parse.parseAll_longer hd
    refine ⟨fun u v => MethodDescriptor.ofDescriptor_cut hd, hlonger, ?_, ?_⟩
    · intro u v heq hv
      by_cases hu : u = ""
      · subst hu
        exact argumentCount_of_error rfl
      · obtain ⟨e, herror, -⟩ := MethodDescriptor.ofDescriptor_cut hd heq hu hv
        exact argumentCount_of_error herror
    · intro c r
      obtain ⟨e, herror, -⟩ := hlonger c r
      exact argumentCount_of_error herror

/-- A method with an array of arrays, a wide parameter and an array as its result. -/
def nestedDescriptor : MethodDescriptor :=
  ⟨[.ref (.objectArray 1 ⟨"p/Q", by decide⟩), .long], some (.ref (.baseArray 0 .boolean))⟩

theorem ofDescriptor_cut_or_longer_nested :
    MethodDescriptor.ofDescriptor "([[Lp/Q;J)[Z" = .ok nestedDescriptor ∧
      CutShort (MethodDescriptor.ofDescriptor "([[Lp/") ∧
      CutShort (MethodDescriptor.ofDescriptor "([[Lp/Q;J)[") ∧
      LeavesOver (MethodDescriptor.ofDescriptor "([[Lp/Q;J)[ZV") 'V' ∧
      argumentCount "([[Lp/Q;" = 0 ∧
      FieldType.ofDescriptor "[I" = .ok (.ref (.baseArray 0 .int)) ∧
      CutShort (FieldType.ofDescriptor "[") := by
  have hread : MethodDescriptor.ofDescriptor "([[Lp/Q;J)[Z" = .ok nestedDescriptor := by
    cbv
  have hread' : FieldType.ofDescriptor "[I" = .ok (.ref (.baseArray 0 .int)) := rfl
  obtain ⟨hfield, hmethod⟩ := ofDescriptor_cut_or_longer
  obtain ⟨hcut, hlonger, hcount, -⟩ := hmethod _ _ hread
  exact ⟨hread, hcut "([[Lp/" "Q;J)[Z" (by decide) (by decide) (by decide),
    hcut "([[Lp/Q;J)[" "Z" (by decide) (by decide) (by decide), hlonger 'V' "",
    hcount "([[Lp/Q;" "J)[Z" (by decide) (by decide), hread',
    (hfield _ _ hread').1 "[" "I" (by decide) (by decide)⟩

end CtorLeak
