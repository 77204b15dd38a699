import TypedSettings.Proofs.Interleavings
import TypedSettings.Proofs.Registry.Validity

/-!
# Declarations of different settings

A declaration looks at what the registry holds for its own key, and leaves what it holds for any
other key as it was. So when declarations are made in different orders, only the order of those on
the same key matters, and parts of a program that declare different settings may make their calls
in any interleaving.
-/

namespace TypedSettings
set_option autoImplicit false

/-! ## What a registry holds for some keys -/

namespace Registry

/-- Two registries hold the same values and the same declared kinds for some keys. -/
structure SameOn (p : Key → Prop) (r s : Registry) : Prop where
  value : ∀ k, p k → r.document.find? k = s.document.find? k
  kind : ∀ k, p k → r.declarations.kinds.find? k = s.declarations.kinds.find? k

variable {p : Key → Prop} {r s t : Registry}

theorem SameOn.refl (p : Key → Prop) (r : Registry) : SameOn p r r :=
  ⟨fun _ _ => rfl, fun _ _ => rfl⟩

theorem SameOn.trans (first : SameOn p r s) (second : SameOn p s t) : SameOn p r t where
  value k on := (first.value k on).trans (second.value k on)
  kind k on := (first.kind k on).trans (second.kind k on)

/-- A recorded declaration is seen at its own key only. -/
theorem SameOn.of_record {k : Key} {kind : Kind} {ds : Declarations} {document : Document}
    (recorded : r.declarations.declare? k kind = some ds) (away : ¬p k)
    (elsewhere : ∀ l, l ≠ k → document.find? l = r.document.find? l) (valid : Bool) :
    SameOn p ⟨document, ds, valid, r.source⟩ r where
  value l on := elsewhere l fun same => away (same ▸ on)
  kind l on := by
    have other : l ≠ k := fun same => away (same ▸ on)
    show ds.kinds.find? l = _
    rw [Declarations.find?_of_declare? recorded, if_neg other]

/-- The same declaration recorded in both registries keeps them the same. -/
theorem SameOn.record (same : SameOn p r s) {k : Key} {kind : Kind} {ds es : Declarations}
    {d e : Document} (left : r.declarations.declare? k kind = some ds)
    (right : s.declarations.declare? k kind = some es)
    (documents : ∀ l, p l → d.find? l = e.find? l) (valid valid' : Bool) :
    SameOn p ⟨d, ds, valid, r.source⟩ ⟨e, es, valid', s.source⟩ where
  value := documents
  kind l on := by
    show ds.kinds.find? l = es.kinds.find? l
    rw [Declarations.find?_of_declare? left, Declarations.find?_of_declare? right, same.kind l on]

/-- An attempt leaves what is held for other keys as it was. -/
theorem sameOn_attempt (r : Registry) {a : Attempt} (away : ¬p a.key) :
    SameOn p (r.attempt a).state r := by
  have way := r.declaring_attempt a
  generalize r.attempt a = outcome at way ⊢
  cases way with
  | invalidDefault unfit => exact .refl p r
  | mismatch fit held differs => exact ⟨fun _ _ => rfl, fun _ _ => rfl⟩
  | repeated fit accepted declared => exact .refl p r
  | present fit held agrees fresh recorded =>
    rw [state_registerPresent]
    exact .of_record recorded away (fun _ _ => rfl) _
  | absent fit missing fresh recorded =>
    rw [state_registerAbsent]
    exact .of_record recorded away (fun l other => Document.find?_set_of_ne _ _ other) _

/-- An attempt is answered by what is held for its own key, and what it leaves behind depends on
nothing else. -/
theorem SameOn.attempt (same : SameOn p r s) {a : Attempt} (on : p a.key) :
    (r.attempt a).reply = (s.attempt a).reply ∧ SameOn p (r.attempt a).state (s.attempt a).state := by
  have value := same.value a.key on
  have kind := same.kind a.key on
  have way := r.declaring_attempt a
  generalize r.attempt a = outcome at way ⊢
  cases way with
  | invalidDefault unfit =>
    have other : Declaring s a _ := .invalidDefault unfit
    rw [other.attempt_eq]
    exact ⟨rfl, same⟩
  | mismatch fit held differs =>
    have other : Declaring s a _ := .mismatch fit (value ▸ held) differs
    rw [other.attempt_eq]
    exact ⟨rfl, same.value, same.kind⟩
  | repeated fit accepted declared =>
    have accepted' : s.accepts a.key a.kind = true := by
      rw [accepts_eq_true_iff, ← value]
      exact accepts_eq_true_iff.1 accepted
    have other : Declaring s a _ := .repeated fit accepted' (kind ▸ declared)
    rw [other.attempt_eq]
    exact ⟨rfl, same⟩
  | present fit held agrees fresh recorded =>
    have recorded' := Declarations.declare?_of_fresh (isDefined_of_initial? fit) (kind ▸ fresh)
    have other : Declaring s a _ := .present fit (value ▸ held) agrees (kind ▸ fresh) recorded'
    rw [other.attempt_eq, reply_registerPresent, reply_registerPresent, state_registerPresent,
      state_registerPresent]
    exact ⟨rfl, same.record recorded recorded' same.value _ _⟩
  | absent fit missing fresh recorded =>
    have recorded' := Declarations.declare?_of_fresh (isDefined_of_initial? fit) (kind ▸ fresh)
    have other : Declaring s a _ := .absent fit (value ▸ missing) (kind ▸ fresh) recorded'
    rw [other.attempt_eq, reply_registerAbsent, reply_registerAbsent, state_registerAbsent,
      state_registerAbsent]
    refine ⟨rfl, same.record recorded recorded' (fun l inside => ?_) _ _⟩
    rw [Document.find?_set, Document.find?_set, same.value l inside]

theorem source_attempt (r : Registry) (a : Attempt) : (r.attempt a).state.source = r.source := by
  have way := r.declaring_attempt a
  generalize r.attempt a = outcome at way ⊢
  cases way with
  | invalidDefault unfit => rfl
  | mismatch fit held differs => rfl
  | repeated fit accepted declared => rfl
  | present fit held agrees fresh recorded => rw [state_registerPresent]
  | absent fit missing fresh recorded => rw [state_registerAbsent]

/-- What is held for all keys, the validity and the source make up a registry. -/
theorem eq_of_sameOn (same : ∀ k, SameOn (· = k) r s) (valid : r.valid = s.valid)
    (source : r.source = s.source) : r = s := by
  have document : r.document = s.document :=
    Document.ext_find? fun k => (same k).value k rfl
  have declarations : r.declarations = s.declarations :=
    Declarations.ext_find? fun k => (same k).kind k rfl
  cases r
  cases s
  simp_all

end Registry

/-! ## Runs of declarations -/

namespace Registry

variable {r s : Registry}

/-- The declarations of some keys are answered as if no others were made, and leave behind for these
keys what they would leave behind alone. -/
theorem SameOn.declareEach {p : Key → Bool} (same : SameOn (p · = true) r s)
    (ds : List Declaration) :
    answersWhere (fun d => p d.key) ds (r.declareEach ds).reply =
        (s.declareEach (ds.filter fun d => p d.key)).reply ∧
      SameOn (p · = true) (r.declareEach ds).state
        (s.declareEach (ds.filter fun d => p d.key)).state := by
  induction ds generalizing r s with
  | nil => exact ⟨rfl, same⟩
  | cons d ds ih =>
    rw [reply_declareEach_cons, state_declareEach_cons, answersWhere_cons, declare_eq_attempt]
    by_cases inside : p d.key = true
    · obtain ⟨reply, next⟩ := same.attempt (a := d.attempt) inside
      obtain ⟨replies, states⟩ := ih next
      rw [List.filter_cons, if_pos inside, if_pos inside, reply_declareEach_cons,
        state_declareEach_cons, declare_eq_attempt, replies, reply]
      exact ⟨rfl, states⟩
    · have next := (r.sameOn_attempt (a := d.attempt) inside).trans same
      rw [List.filter_cons, if_neg inside, if_neg inside]
      exact ih next

theorem valid_declareEach (r : Registry) (ds : List Declaration) :
    (r.declareEach ds).state.valid = true ↔
      r.valid = true ∧ ∀ e ∈ ds.zip (r.declareEach ds).reply, invalidating e.2 = false := by
  induction ds generalizing r with
  | nil => simp
  | cons d ds ih =>
    rw [state_declareEach_cons, reply_declareEach_cons, List.zip_cons_cons, List.forall_mem_cons, ih,
      declare_eq_attempt, valid_attempt, Bool.and_eq_true, Bool.not_eq_true', and_assoc]

theorem source_declareEach (r : Registry) (ds : List Declaration) :
    (r.declareEach ds).state.source = r.source := by
  induction ds generalizing r with
  | nil => rfl
  | cons d ds ih => rw [state_declareEach_cons, ih, declare_eq_attempt, source_attempt]

variable {ds es : List Declaration}

/-- Of two orders of declarations that agree on each key, one makes the configuration invalid if the
other does: the fault is an answer on some key. -/
theorem valid_of_sameOrder (sameOrder : ∀ k, ds.filter (·.key = k) = es.filter (·.key = k))
    (valid : (r.declareEach ds).state.valid = true) : (r.declareEach es).state.valid = true := by
  rw [valid_declareEach] at valid ⊢
  refine ⟨valid.1, ?_⟩
  rintro ⟨d, reply⟩ mem
  have answers : answersWhere (fun c => decide (c.key = d.key)) es (r.declareEach es).reply =
      answersWhere (fun c => decide (c.key = d.key)) ds (r.declareEach ds).reply := by
    have alone := fun cs => ((SameOn.refl _ r).declareEach (p := (decide <| · = d.key)) cs).1
    rw [alone, alone, sameOrder]
  have here : reply ∈ answersWhere (fun c => decide (c.key = d.key)) es (r.declareEach es).reply :=
    mem_answersWhere.2 ⟨d, mem, decide_eq_true rfl⟩
  rw [answers] at here
  obtain ⟨c, there, -⟩ := mem_answersWhere.1 here
  exact valid.2 (c, reply) there

/-- Only the order of the declarations on each key matters. -/
theorem declareEach_of_sameOrder (sameOrder : ∀ k, ds.filter (·.key = k) = es.filter (·.key = k))
    (r : Registry) : (r.declareEach ds).state = (r.declareEach es).state := by
  apply eq_of_sameOn
  · intro k
    have alone := fun cs => ((SameOn.refl _ r).declareEach (p := (decide <| · = k)) cs).2
    have left := alone ds
    have right := alone es
    rw [sameOrder] at left
    simp only [decide_eq_true_eq] at left right
    exact ⟨fun l on => (left.value l on).trans (right.value l on).symm,
      fun l on => (left.kind l on).trans (right.kind l on).symm⟩
  · rw [Bool.eq_iff_iff]
    exact ⟨valid_of_sameOrder sameOrder, valid_of_sameOrder fun k => (sameOrder k).symm⟩
  · rw [source_declareEach, source_declareEach]

end Registry

/-! ## Interleavings of declarations -/

section Interleavings

variable {ι : Type} [DecidableEq ι] {parts : ι → List Declaration} {merged : List (ι × Declaration)}

/-- A key is one of those that a part declares. -/
def onPart (part : List Declaration) (k : Key) : Bool := part.any fun d => d.key = k

theorem onPart_eq_true_iff {part : List Declaration} {k : Key} :
    onPart part k = true ↔ ∃ d ∈ part, d.key = k := by
  simp [onPart]

/-- No key is declared by two parts. -/
def Apart (parts : ι → List Declaration) : Prop :=
  ∀ i j, i ≠ j → ∀ c ∈ parts i, ∀ d ∈ parts j, c.key ≠ d.key

/-- When no key is declared by two parts, the keys tell which part makes a call. -/
theorem Interleaves.onPart_eq (interleaved : Interleaves parts merged) (apart : Apart parts) (i : ι)
    {e : ι × Declaration} (mem : e ∈ merged) : onPart (parts i) e.2.key = decide (e.1 = i) := by
  have own := interleaved.mem_part mem
  rw [Bool.eq_iff_iff, onPart_eq_true_iff, decide_eq_true_iff]
  constructor
  · rintro ⟨d, other, same⟩
    by_contra differs
    exact apart e.1 i differs e.2 own d other same.symm
  · rintro rfl
    exact ⟨e.2, own, rfl⟩

/-- The calls on the keys of a part are the calls of this part. -/
theorem Interleaves.filter_onPart (interleaved : Interleaves parts merged) (apart : Apart parts)
    (i : ι) : (merged.map Prod.snd).filter (fun d => onPart (parts i) d.key) = parts i := by
  have select : merged.filter ((fun d => onPart (parts i) d.key) ∘ Prod.snd) =
      merged.filter (·.1 = i) :=
    List.filter_congr fun e mem => interleaved.onPart_eq apart i mem
  rw [List.filter_map, select, interleaved i]

/-- Each part is answered as if it were alone with the registry. -/
theorem Interleaves.answers (interleaved : Interleaves parts merged) (apart : Apart parts)
    (r : Registry) (i : ι) :
    answersWhere (fun e => decide (e.1 = i)) merged (r.declareEach (merged.map Prod.snd)).reply =
      (r.declareEach (parts i)).reply := by
  have alone := ((Registry.SameOn.refl _ r).declareEach (p := onPart (parts i))
    (merged.map Prod.snd)).1
  rw [interleaved.filter_onPart apart i, answersWhere_map] at alone
  rw [← alone]
  exact answersWhere_congr (fun e mem => (interleaved.onPart_eq apart i mem).symm) _

/-- All interleavings have the calls on each key in the same order. -/
theorem Interleaves.sameOrder {other : List (ι × Declaration)}
    (interleaved : Interleaves parts merged) (interleaved' : Interleaves parts other)
    (apart : Apart parts) (k : Key) :
    (merged.map Prod.snd).filter (·.key = k) = (other.map Prod.snd).filter (·.key = k) := by
  by_cases named : ∃ i, onPart (parts i) k = true
  · obtain ⟨i, on⟩ := named
    have within : ∀ ds : List Declaration, ds.filter (·.key = k) =
        (ds.filter fun d => onPart (parts i) d.key).filter (·.key = k) := by
      intro ds
      rw [List.filter_filter]
      refine List.filter_congr fun d _ => ?_
      by_cases same : d.key = k <;> simp [same, on]
    rw [within, interleaved.filter_onPart apart, within (other.map _),
      interleaved'.filter_onPart apart]
  · have none : ∀ {calls : List (ι × Declaration)}, Interleaves parts calls →
        (calls.map Prod.snd).filter (·.key = k) = [] := by
      intro calls interleaved
      rw [List.filter_eq_nil_iff]
      intro d mem
      obtain ⟨e, inside, rfl⟩ := List.mem_map.1 mem
      have own := interleaved.mem_part inside
      simpa using fun same => named ⟨e.1, onPart_eq_true_iff.2 ⟨e.2, own, same⟩⟩
    rw [none interleaved, none interleaved']

/-- Parts of a program that declare different settings do not interfere. However their calls are
interleaved, the registry ends as if each part had made its calls in turn, in whatever order of the
parts, and each call is answered as there, which is also as if its part were alone. -/
theorem Registry.declareEach_interleaved (r : Registry) (apart : Apart parts)
    (interleaved : Interleaves parts merged) {order : List ι} (once : order.Nodup)
    (every : ∀ i, i ∈ order) :
    (r.declareEach (merged.map Prod.snd)).state = (r.declareEach (order.flatMap parts)).state ∧
    ∀ i, answersWhere (fun e => decide (e.1 = i)) merged
          (r.declareEach (merged.map Prod.snd)).reply =
        answersWhere (fun e => decide (e.1 = i)) (inTurn parts order)
          (r.declareEach (order.flatMap parts)).reply ∧
      answersWhere (fun e => decide (e.1 = i)) merged
          (r.declareEach (merged.map Prod.snd)).reply =
        (r.declareEach (parts i)).reply := by
  have turns := interleaves_inTurn parts once every
  rw [← map_inTurn]
  refine ⟨declareEach_of_sameOrder (interleaved.sameOrder turns apart) r, fun i => ?_⟩
  rw [interleaved.answers apart, turns.answers apart]
  exact ⟨rfl, rfl⟩

end Interleavings

/-- One part declares the same setting twice, the other one a setting that it requires. -/
def sampleParts : Bool → List Declaration
  | true => [⟨"", "port", .integer 80, true⟩, ⟨"DEFAULT", "port", .any .float none, false⟩]
  | false => [⟨"server", "host", .string "", true⟩]

/-- The calls of both parts, each part in its order. -/
def sampleCalls : List (Bool × Declaration) :=
  [(true, ⟨"", "port", .integer 80, true⟩), (false, ⟨"server", "host", .string "", true⟩),
    (true, ⟨"DEFAULT", "port", .any .float none, false⟩)]

theorem apart_sampleParts : Apart sampleParts := by
  unfold Apart
  decide +kernel

theorem interleaves_sampleCalls : Interleaves sampleParts sampleCalls := by
  rintro (_ | _) <;> rfl

/-- Both parts meet a fault, each in its own answers. -/
theorem Registry.declareEach_interleaved_sample :
    (empty.declareEach (sampleCalls.map Prod.snd)).state =
        (empty.declareEach ([false, true].flatMap sampleParts)).state ∧
      answersWhere (fun e => decide (e.1 = true)) sampleCalls
          (empty.declareEach (sampleCalls.map Prod.snd)).reply =
        [.ok (), .error (.typeMismatch (.of "" "port") .float "integer")] ∧
      answersWhere (fun e => decide (e.1 = false)) sampleCalls
          (empty.declareEach (sampleCalls.map Prod.snd)).reply =
        [.error (.requiredMissing (.of "server" "host"))] := by
  have once : [false, true].Nodup := by decide
  obtain ⟨state, answers⟩ := empty.declareEach_interleaved apart_sampleParts interleaves_sampleCalls
    once (by decide)
  refine ⟨state, ?_, ?_⟩
  · rw [(answers true).2]
    decide +kernel
  · rw [(answers false).2]
    decide +kernel

end TypedSettings
