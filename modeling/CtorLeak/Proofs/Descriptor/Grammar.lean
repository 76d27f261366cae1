import CtorLeak.Descriptor.Parser
import CtorLeak.Proofs.Name

/-!
# Descriptors are read exactly as they are written

Two descriptions of one grammar stand side by side: `render` writes the descriptor of a type, and
`parse` takes one from the front of a text.  A reader and a writer fit together (`Exact`) if

    p s = .ok t rest ↔ Valid t ∧ s = render t ++ rest

so that nothing but a written descriptor is read, all of it and nothing behind it.  It follows that
no two types share a descriptor (`Exact.recognizes`).

Not every class has a descriptor: the name of an array class may hold a `;`, which would end the
descriptor too early.  `HasDescriptor` leaves these out, and no reader ever answers with one.
-/

namespace CtorLeak

/-! ## Types that have a descriptor -/

/-- A name that can stand between `L` and `;`. -/
def BinaryName.HasDescriptor (name : BinaryName) : Prop := ';' ∉ name.text.toList

def RefType.HasDescriptor : RefType → Prop
  | object name => name.HasDescriptor
  | objectArray _ name => name.HasDescriptor
  | baseArray _ _ => True

def FieldType.HasDescriptor : FieldType → Prop
  | base _ => True
  | ref type => type.HasDescriptor

def MethodDescriptor.HasDescriptor (d : MethodDescriptor) : Prop :=
  (∀ t ∈ d.parameters, t.HasDescriptor) ∧ ∀ t ∈ d.result, t.HasDescriptor

/-! ## Readers and writers -/

namespace DescriptorReader

variable {α β : Type} {p : DescriptorReader α} {Valid : α → Prop} {render : α → List Char}

/-- `p` reads just what `render` writes of a value for which `Valid` holds. -/
def Exact (p : DescriptorReader α) (Valid : α → Prop) (render : α → List Char) : Prop :=
  ∀ s t rest, p s = .ok t rest ↔ Valid t ∧ s = render t ++ rest

/-- A grammar that is read without choice: from the front of a text, as a whole text, and with at
most one value for each text. -/
structure Recognizes (p : DescriptorReader α) (Valid : α → Prop) (render : α → List Char) :
    Prop where
  parse_iff : ∀ s t rest, p s = .ok t rest ↔ Valid t ∧ s = render t ++ rest
  parseAll_iff : ∀ text t, p.parseAll text = .ok t ↔ Valid t ∧ text.toList = render t
  render_injective : ∀ t t', Valid t → Valid t' → render t = render t' → t = t'

theorem parseAll_eq_ok_iff {text : String} {t : α} :
    p.parseAll text = .ok t ↔ p text.toList = .ok t [] := by
  unfold parseAll
  constructor
  · intro h
    split at h
    · cases h
    · rename_i heq
      cases h
      exact heq
    · cases h
  · intro h
    rw [h]

theorem Exact.recognizes (h : Exact p Valid render) : Recognizes p Valid render where
  parse_iff := h
  parseAll_iff text t := by
    rw [parseAll_eq_ok_iff, h, List.append_nil]
  render_injective t t' ht ht' heq := by
    -- one text cannot be read in two ways
    have hread : p (render t) = .ok t [] := (h _ _ _).2 ⟨ht, (List.append_nil _).symm⟩
    have hread' : p (render t) = .ok t' [] := (h _ _ _).2 ⟨ht', by rw [heq, List.append_nil]⟩
    rw [hread] at hread'
    cases hread'
    rfl

theorem map_eq_ok_iff {f : α → β} {s rest : List Char} {b : β} :
    (f <$> p) s = .ok b rest ↔ ∃ a, p s = .ok a rest ∧ f a = b := by
  constructor
  · exact map_eq_ok
  · rintro ⟨a, ha, rfl⟩
    simp only [Functor.map, EStateM.map, ha]

end DescriptorReader

open DescriptorReader

/-! ## Base types and classes -/

theorem BaseType.exact_parse : Exact BaseType.parse (fun _ => True) fun b => [b.letter] := by
  intro s b rest
  constructor
  · intro h
    unfold parse at h
    split at h
    · cases h
    · split at h
      · rename_i hletter
        cases h
        rw [ofLetter?_eq_some_iff.1 hletter]
        exact ⟨trivial, rfl⟩
      · cases h
  · rintro ⟨-, rfl⟩
    change parse (b.letter :: rest) = _
    rw [parse, ofLetter?_letter]

/-- Where a run of characters ends is decided by the first character that is not in it. -/
theorem span_eq_iff {P : Char → Bool} {s u v : List Char} :
    s.takeWhile P = u ∧ s.dropWhile P = v ↔
      s = u ++ v ∧ (∀ c ∈ u, P c) ∧ ∀ c ∈ v.head?, ¬ P c := by
  constructor
  · rintro ⟨rfl, rfl⟩
    refine ⟨List.takeWhile_append_dropWhile.symm, List.all_eq_true.1 List.all_takeWhile, ?_⟩
    intro c hc
    have := List.head?_dropWhile_not P s
    rw [hc] at this
    simpa using this
  · rintro ⟨rfl, hu, hv⟩
    rw [List.takeWhile_append_of_pos hu, List.dropWhile_append_of_pos hu]
    cases v with
    | nil => simp
    | cons c v =>
      have hc : ¬ P c := hv c rfl
      simp [hc]

theorem BinaryName.exact_parse :
    Exact BinaryName.parse BinaryName.HasDescriptor BinaryName.render := by
  intro s name rest
  -- the name is what stands between `L` and the first `;`
  have hspan : ∀ cs, name.HasDescriptor ∧ 'L' :: cs = name.render ++ rest ↔
      cs.takeWhile (· != ';') = name.text.toList ∧ cs.dropWhile (· != ';') = ';' :: rest := by
    intro cs
    rw [span_eq_iff]
    simp only [HasDescriptor, render, List.head?_cons]
    grind
  constructor
  · intro h
    unfold parse at h
    split at h
    · rename_i cs
      rw [hspan]
      simp only at h
      split at h
      · cases h
      · rename_i c tail hdrop
        split at h
        · rename_i name' hname
          cases h
          have hc : c = ';' := by
            have := List.head?_dropWhile_not (· != ';') cs
            rw [hdrop] at this
            simpa using this
          rw [ofString_eq_ok_iff] at hname
          rw [hname, hdrop, hc, String.toList_ofList]
          exact ⟨rfl, rfl⟩
        · cases h
    · cases h
  · intro h
    obtain ⟨cs, rfl⟩ : ∃ cs, s = 'L' :: cs := ⟨_, h.2⟩
    obtain ⟨htake, hdrop⟩ := (hspan cs).1 h
    have hname : ofString (String.ofList name.text.toList) = .ok name := by
      rw [ofString_eq_ok_iff, String.ofList_toList]
    simp only [parse, htake, hdrop, hname]

/-! ## References and fields -/

/-- All brackets in front are dimensions of one array. -/
theorem RefType.parse_array {q : List Char} (extra : Nat) (hq : '[' ∉ q.head?) :
    RefType.parse (List.replicate (extra + 1) '[' ++ q) =
      if 'L' ∈ q.head? then (objectArray extra <$> BinaryName.parse) q
      else (baseArray extra <$> BaseType.parse) q := by
  have hspan : (List.replicate extra '[' ++ q).takeWhile (· == '[') = List.replicate extra '[' ∧
      (List.replicate extra '[' ++ q).dropWhile (· == '[') = q := by
    rw [span_eq_iff]
    refine ⟨rfl, ?_, ?_⟩
    · intro c hc
      rw [List.eq_of_mem_replicate hc]
      rfl
    · intro c hc heq
      rw [eq_of_beq heq] at hc
      exact hq hc
  rw [List.replicate_succ, List.cons_append, parse]
  simp only [hspan.1, hspan.2, List.length_replicate]
  split
  · rw [if_pos (by simp)]
  · rename_i hL
    rw [if_neg]
    intro h
    obtain ⟨tail, htail⟩ := List.head?_eq_some_iff.1 h
    exact hL tail htail

theorem exists_brackets (s : List Char) :
    ∃ n q, s = List.replicate n '[' ++ q ∧ '[' ∉ q.head? := by
  obtain ⟨hs, hall, hq⟩ := (span_eq_iff (P := (· == '[')) (s := s)).1 ⟨rfl, rfl⟩
  have hrun : s.takeWhile (· == '[') = List.replicate (s.takeWhile (· == '[')).length '[' :=
    List.eq_replicate_iff.2 ⟨rfl, fun c hc => eq_of_beq (hall c hc)⟩
  refine ⟨(s.takeWhile (· == '[')).length, s.dropWhile (· == '['), ?_, fun h => hq _ h rfl⟩
  rw [← hrun]
  exact hs

theorem BaseType.letter_ne (b : BaseType) :
    b.letter ≠ 'L' ∧ b.letter ≠ '[' ∧ b.letter ≠ ')' ∧ b.letter ≠ 'V' := by
  cases b <;> decide

theorem RefType.exact_parse : Exact RefType.parse RefType.HasDescriptor RefType.render := by
  intro s t rest
  constructor
  · intro h
    obtain ⟨n, q, rfl, hq⟩ := exists_brackets s
    cases n with
    | zero =>
      rw [List.replicate_zero, List.nil_append] at h ⊢
      unfold parse at h
      split at h
      · cases h
      · simp at hq
      · obtain ⟨name, hname, rfl⟩ := map_eq_ok h
        exact (BinaryName.exact_parse _ _ _).1 hname
      · cases h
    | succ extra =>
      rw [parse_array extra hq] at h
      split at h
      · obtain ⟨name, hname, rfl⟩ := map_eq_ok h
        obtain ⟨hdescriptor, rfl⟩ := (BinaryName.exact_parse _ _ _).1 hname
        exact ⟨hdescriptor, (List.append_assoc _ _ _).symm⟩
      · obtain ⟨base, hbase, rfl⟩ := map_eq_ok h
        obtain ⟨-, rfl⟩ := (BaseType.exact_parse _ _ _).1 hbase
        exact ⟨trivial, (List.append_assoc _ _ _).symm⟩
  · rintro ⟨ht, rfl⟩
    cases t with
    | object name =>
      exact map_eq_ok_iff.2 ⟨name, (BinaryName.exact_parse _ _ _).2 ⟨ht, rfl⟩, rfl⟩
    | objectArray extra name =>
      rw [render, List.append_assoc, parse_array extra (by simp [BinaryName.render]),
        if_pos (by simp [BinaryName.render]), map_eq_ok_iff]
      exact ⟨name, (BinaryName.exact_parse _ _ _).2 ⟨ht, rfl⟩, rfl⟩
    | baseArray extra base =>
      have hhead := base.letter_ne
      rw [render, List.append_assoc, parse_array extra (by simp [hhead]), if_neg (by simp [hhead]),
        map_eq_ok_iff]
      exact ⟨base, (BaseType.exact_parse _ _ _).2 ⟨trivial, rfl⟩, rfl⟩

/-- The first character tells a reference from a base type. -/
theorem RefType.exists_render_eq (t : RefType) :
    ∃ c cs, t.render = c :: cs ∧ (c = 'L' ∨ c = '[') := by
  cases t with
  | object name => exact ⟨_, _, rfl, .inl rfl⟩
  | objectArray extra name => exact ⟨_, _, rfl, .inr rfl⟩
  | baseArray extra base => exact ⟨_, _, rfl, .inr rfl⟩

theorem FieldType.exact_parse : Exact FieldType.parse FieldType.HasDescriptor FieldType.render := by
  intro s t rest
  constructor
  · intro h
    unfold parse at h
    split at h
    · cases h
    · rename_i c cs
      split at h
      · rename_i b hb
        cases h
        rw [BaseType.ofLetter?_eq_some_iff.1 hb]
        exact ⟨trivial, rfl⟩
      · obtain ⟨type, htype, rfl⟩ := map_eq_ok h
        exact (RefType.exact_parse _ _ _).1 htype
  · rintro ⟨ht, rfl⟩
    cases t with
    | base b =>
      change parse (b.letter :: rest) = _
      rw [parse, BaseType.ofLetter?_letter]
    | ref type =>
      have hread : RefType.parse (type.render ++ rest) = .ok type rest :=
        (RefType.exact_parse _ _ _).2 ⟨ht, rfl⟩
      obtain ⟨c, cs, heq, hc⟩ := type.exists_render_eq
      have hletter : BaseType.ofLetter? c = none := by
        rcases hc with rfl | rfl <;> rfl
      rw [heq, List.cons_append] at hread
      rw [render, heq, List.cons_append, parse, hletter]
      exact map_eq_ok_iff.2 ⟨type, hread, rfl⟩

theorem FieldType.exists_render_eq (t : FieldType) :
    ∃ c cs, t.render = c :: cs ∧ c ≠ ')' ∧ c ≠ 'V' := by
  cases t with
  | base b => exact ⟨_, _, rfl, b.letter_ne.2.2⟩
  | ref type =>
    obtain ⟨c, cs, heq, hc⟩ := type.exists_render_eq
    refine ⟨c, cs, heq, ?_⟩
    rcases hc with rfl | rfl <;> decide

/-! ## Methods -/

namespace MethodDescriptor

/-- A parameter in front of others. -/
theorem parseParameters_of_parse {s rest rest' : List Char} {t : FieldType} {ts : List FieldType}
    (ht : FieldType.parse s = .ok t rest) (hts : parseParameters rest = .ok ts rest') :
    parseParameters s = .ok (t :: ts) rest' := by
  -- a type does not start with the closing parenthesis
  obtain ⟨-, rfl⟩ := (FieldType.exact_parse _ _ _).1 ht
  obtain ⟨c, cs, heq, hc, -⟩ := t.exists_render_eq
  rw [heq, List.cons_append] at ht ⊢
  rw [parseParameters]
  · split
    · simp_all
    · simp_all
  · intro rest h
    exact hc (List.cons.inj h).1

theorem parseParameters_eq_ok_iff {s rest : List Char} {ts : List FieldType} :
    parseParameters s = .ok ts rest ↔
      (∀ t ∈ ts, t.HasDescriptor) ∧ s = ts.flatMap FieldType.render ++ ')' :: rest := by
  constructor
  · intro h
    fun_induction parseParameters s generalizing ts with
    | case1 rest' =>
      cases h
      exact ⟨List.forall_mem_nil _, rfl⟩
    | case2 s hs e rest' ht => cases h
    | case3 s hs t rest' ht hlt e rest'' hts ih => cases h
    | case4 s hs t rest' ht hlt ts' rest'' hts ih =>
      cases h
      obtain ⟨hdescriptor, rfl⟩ := (FieldType.exact_parse _ _ _).1 ht
      obtain ⟨hall, rfl⟩ := ih hts
      rw [List.forall_mem_cons, List.flatMap_cons, List.append_assoc]
      exact ⟨⟨hdescriptor, hall⟩, rfl⟩
  · rintro ⟨hall, rfl⟩
    induction ts with
    | nil => rw [List.flatMap_nil, List.nil_append, parseParameters]
    | cons t ts ih =>
      rw [List.forall_mem_cons] at hall
      rw [List.flatMap_cons, List.append_assoc]
      exact parseParameters_of_parse ((FieldType.exact_parse _ _ _).2 ⟨hall.1, rfl⟩) (ih hall.2)

theorem exact_parseResult :
    Exact parseResult (fun result => ∀ t ∈ result, t.HasDescriptor)
      fun result => (result.map FieldType.render).getD ['V'] := by
  intro s result rest
  constructor
  · intro h
    unfold parseResult at h
    split at h
    · cases h
      exact ⟨nofun, rfl⟩
    · obtain ⟨t, ht, rfl⟩ := map_eq_ok h
      obtain ⟨hdescriptor, rfl⟩ := (FieldType.exact_parse _ _ _).1 ht
      refine ⟨?_, rfl⟩
      rintro _ ⟨⟩
      exact hdescriptor
  · rintro ⟨hall, rfl⟩
    cases result with
    | none => rfl
    | some t =>
      have hread : FieldType.parse (t.render ++ rest) = .ok t rest :=
        (FieldType.exact_parse _ _ _).2 ⟨hall t rfl, rfl⟩
      obtain ⟨c, cs, heq, -, hc⟩ := t.exists_render_eq
      change parseResult (t.render ++ rest) = _
      rw [heq, List.cons_append] at hread ⊢
      rw [parseResult]
      · exact map_eq_ok_iff.2 ⟨t, hread, rfl⟩
      · intro rest h
        exact hc (List.cons.inj h).1

theorem exact_parse : Exact MethodDescriptor.parse HasDescriptor MethodDescriptor.render := by
  intro s d rest
  constructor
  · intro h
    unfold parse at h
    split at h
    · split at h
      · cases h
      · rename_i parameters rest' hparameters
        obtain ⟨result, hresult, rfl⟩ := map_eq_ok h
        obtain ⟨hall, rfl⟩ := parseParameters_eq_ok_iff.1 hparameters
        obtain ⟨hdescriptor, rfl⟩ := (exact_parseResult _ _ _).1 hresult
        refine ⟨⟨hall, hdescriptor⟩, ?_⟩
        simp [render]
    · cases h
  · rintro ⟨⟨hall, hdescriptor⟩, rfl⟩
    have hresult := (exact_parseResult _ d.result rest).2 ⟨hdescriptor, rfl⟩
    have hparameters : ∀ rest', parseParameters (d.parameters.flatMap FieldType.render ++
        ')' :: rest') = .ok d.parameters rest' :=
      fun rest' => parseParameters_eq_ok_iff.2 ⟨hall, rfl⟩
    simp only [render, List.cons_append, List.append_assoc]
    rw [parse, hparameters]
    exact map_eq_ok_iff.2 ⟨d.result, hresult, rfl⟩

end MethodDescriptor

/-- References, fields and methods: a descriptor is read exactly if it is the one that is written
for the type, and two types never have the same. -/
theorem recognizes_descriptors :
    Recognizes RefType.parse RefType.HasDescriptor RefType.render ∧
      Recognizes FieldType.parse FieldType.HasDescriptor FieldType.render ∧
      Recognizes MethodDescriptor.parse MethodDescriptor.HasDescriptor MethodDescriptor.render :=
  ⟨RefType.exact_parse.recognizes, FieldType.exact_parse.recognizes,
    MethodDescriptor.exact_parse.recognizes⟩

-- The class of arrays of `a` has no descriptor as a class: what would be written ends too early.
example : BinaryName.parse (BinaryName.render ⟨"[La;", by decide⟩) =
    .ok ⟨"[La", by decide⟩ [';'] := by
  rfl

end CtorLeak
