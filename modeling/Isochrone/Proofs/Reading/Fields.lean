import Isochrone.Proofs.Reading.Order

/-!
# Records by their fields

What a record that is read from an object holds in a field is what the member of that name is read
as, or the default where there is no such member. Unless it lacks a field it fails only as one of
its fields does, and an array only as one of its items does.
-/

namespace Isochrone.Reading

open Json (Value Document)

variable {α β σ : Type} {decode : Decoder α} {P : Problem → Prop}

/-- Nothing but some problems keeps a result from being there. -/
def FailsOnly (P : Problem → Prop) (x : Except Problem α) : Prop :=
  ∀ problem, x = .error problem → P problem

theorem failsOnly_ok (a : α) : FailsOnly P (.ok a) := nofun

section Steps

variable {x : Except Problem α}

/-- Two steps that fail with the allowed problems alone do so together. -/
theorem FailsOnly.bind {next : α → Except Problem β} (h : FailsOnly P x)
    (hnext : ∀ a, x = .ok a → FailsOnly P (next a)) : FailsOnly P (x >>= next) := by
  cases x with
  | error problem =>
    rintro _ ⟨⟩
    exact h problem rfl
  | ok a => exact hnext a rfl

/-- A problem does not depend on what is made of the result. -/
theorem FailsOnly.functor_map (h : FailsOnly P x) (f : α → β) : FailsOnly P (f <$> x) := by
  cases x with
  | error problem =>
    rintro _ ⟨⟩
    exact h problem rfl
  | ok a => exact failsOnly_ok (f a)

/-- What is not there fails with one of the problems. -/
theorem FailsOnly.exists_error (h : FailsOnly P x) (hx : ∀ a, x ≠ .ok a) :
    ∃ problem, x = .error problem ∧ P problem := by
  cases x with
  | error problem => exact ⟨problem, rfl, h problem rfl⟩
  | ok a => exact absurd rfl (hx a)

/-- What has no problem to fail with is there. -/
theorem FailsOnly.exists_ok (h : FailsOnly P x) (hP : ∀ problem, ¬ P problem) :
    ∃ a, x = .ok a := by
  cases x with
  | error problem => exact absurd (h problem rfl) (hP problem)
  | ok a => exact ⟨a, rfl⟩

end Steps

/-- A list of items fails as its items do. -/
theorem failsOnly_items {vs : List Value} (h : ∀ v ∈ vs, FailsOnly P (decode (.ofValue v))) :
    FailsOnly P (items decode (Document.ofItems vs)) := by
  induction vs with
  | nil => exact failsOnly_ok []
  | cons v vs ih =>
    obtain ⟨hv, hvs⟩ := List.forall_mem_cons.mp h
    exact hv.bind fun a _ => (ih hvs).bind fun as _ => failsOnly_ok (a :: as)

/-- An array fails only as one of its items does. -/
theorem failsOnly_list {vs : List Value} (h : ∀ v ∈ vs, FailsOnly P (decode (.ofValue v))) :
    FailsOnly P (list decode (.ofValue (.array vs))) :=
  (failsOnly_items h).bind fun as _ => failsOnly_ok as

/-- Each item of a list is read from the value in its place. -/
theorem forall₂_of_items {vs : List Value} {as : List α}
    (h : items decode (Document.ofItems vs) = .ok as) :
    List.Forall₂ (fun v a => decode (.ofValue v) = .ok a) vs as := by
  induction vs generalizing as with
  | nil =>
    cases h
    exact List.Forall₂.nil
  | cons v vs ih =>
    simp only [Document.ofItems, items, bind_eq_ok] at h
    obtain ⟨a, ha, rest, hrest, has⟩ := h
    cases has
    exact List.Forall₂.cons ha (ih hrest)

/-- The items of an array are read each as itself. -/
theorem forall₂_of_list {vs : List Value} {as : List α}
    (h : list decode (.ofValue (.array vs)) = .ok as) :
    List.Forall₂ (fun v a => decode (.ofValue v) = .ok a) vs as := by
  simp only [Document.ofValue, list, bind_eq_ok] at h
  obtain ⟨-, -, bs, hbs, -, -, has⟩ := h
  cases has
  exact forall₂_of_items hbs

section Absent

variable {d : Document} {v : Value}

/-- What may be absent is never read as null. -/
theorem optional_value_ne_null (d : Document) : optional value d ≠ .ok (some .null) := by
  intro h
  unfold optional at h
  split at h
  · cases h
  · rename_i hne
    obtain ⟨v, hv, heq⟩ := map_eq_ok.mp h
    obtain rfl := Option.some.inj heq
    cases Document.reads_of_read (ofFault_eq_ok.mp hv) with
    | null => exact hne rfl

/-- A canonical value is read where it may be absent, null as its absence. -/
theorem optional_value_ofValue (h : v.Canonical) :
    optional value (.ofValue v) = .ok ((some v).filter fun v => !v.isNull) := by
  have hread := value_ofValue h
  cases v with
  | null => rfl
  | _ => exact congrArg (some <$> ·) hread

/-- A value that may be absent is there if it is not null. -/
theorem optional_value_of_ne_null (h : v.Canonical) (hne : v ≠ .null) :
    optional value (.ofValue v) = .ok (some v) := by
  rw [optional_value_ofValue h]
  cases v with
  | null => exact absurd rfl hne
  | _ => rfl

variable (hnull : ∀ a, decode .null ≠ .ok a)
include hnull

/-- Where null is not read, what is read is read where it may be absent. -/
theorem optional_of_ok {a : α} (h : decode d = .ok a) : optional decode d = .ok (some a) := by
  unfold optional
  split
  · exact absurd h (hnull a)
  · rw [h]
    rfl

/-- Where null is not read, what may be absent is what it is read as, if it is. -/
theorem toOption_of_optional {a? : Option α} (h : optional decode d = .ok a?) :
    a? = (decode d).toOption := by
  unfold optional at h
  split at h
  · cases h
    cases hread : decode .null with
    | error problem => rfl
    | ok a => exact absurd hread (hnull a)
  · obtain ⟨a, ha, rfl⟩ := map_eq_ok.mp h
    rw [ha]
    rfl

end Absent

/-- Members are written one after another, and each of them has to be. -/
theorem writeAll_cons_eq_some_iff {write : String × Value → σ → Option σ}
    {member : String × Value} {members : List (String × Value)} {s s' : σ} :
    writeAll write (some s) (member :: members) = some s' ↔
      ∃ t, write member s = some t ∧ writeAll write (some t) members = some s' := by
  rw [writeAll_cons]
  cases write member s with
  | none => simp [writeAll_none]
  | some t => simp

namespace Record

variable {r : Record σ} {members : List (String × Value)}

section Failure

variable (h : ∀ member ∈ members, r.isField member.1 = true →
  ∀ s, FailsOnly P (r.set member.1 (.ofValue member.2) s))
include h

/-- The members of an object fail as its fields do. -/
theorem failsOnly_readMembers {met : List String} (hmet : ∀ member ∈ members, member.1 ∉ met)
    (hnames : (members.map Prod.fst).Nodup) (s : σ) :
    FailsOnly P (r.readMembers met (Document.ofMembers members) s) := by
  induction members generalizing met s with
  | nil => exact failsOnly_ok (met, s)
  | cons member members ih =>
    obtain ⟨hfirst, hrest⟩ := List.forall_mem_cons.mp hmet
    obtain ⟨hfresh, hnames'⟩ := List.nodup_cons.mp hnames
    obtain ⟨hmember, hmembers⟩ := List.forall_mem_cons.mp h
    rw [Document.ofMembers]
    by_cases hfield : r.isField member.1 = true
    · rw [readMembers_cons_field hfield (by simpa using hfirst)]
      exact (hmember hfield s).bind fun s' _ =>
        ih hmembers (fresh_cons hrest hfresh) hnames' s'
    · have hskip := Document.skip_of_read _ (Document.read_ofValue member.2)
      rw [readMembers_cons_other (Bool.of_not_eq_true hfield) hskip]
      exact ih hmembers hrest hnames' s

/-- A record that lacks no field fails only as one of its fields does. -/
theorem failsOnly_decode (hnames : (members.map Prod.fst).Nodup)
    (hlacks : r.lacks (members.map Prod.fst) = false) :
    FailsOnly P (r.decode (.ofValue (.object members))) := by
  intro problem hproblem
  have hread := failsOnly_readMembers h (fun _ _ => List.not_mem_nil) hnames r.default
  cases hmembers : r.readMembers [] (Document.ofMembers members) r.default with
  | error problem' =>
    have hsame : r.decode (.ofValue (.object members)) = .error problem' := by
      rw [Document.ofValue, decode, hmembers]
      rfl
    rw [hsame] at hproblem
    cases hproblem
    exact hread problem hmembers
  | ok result =>
    have hwritten := readMembers_toOption (r := r) (fun _ _ => List.not_mem_nil) hnames r.default
    have hdecoded := decode_object_toOption (r := r) hnames
    rw [hmembers] at hwritten
    rw [hproblem, hlacks, if_neg Bool.false_ne_true] at hdecoded
    rw [← hdecoded] at hwritten
    cases hwritten

end Failure

/-- A record that is read is what the writes of the members leave of the defaults. -/
theorem writeAll_of_decode {m : SortedMap String Value} {s : σ}
    (hread : r.decode (.ofValue (.ofMap m)) = .ok s) :
    writeAll r.write (some r.default) m.entries = some s := by
  have hdecoded := decode_object_toOption (r := r) m.nodup_keys
  rw [← toOption_eq_some, Value.ofMap, hdecoded] at hread
  split at hread
  · cases hread
  · exact hread

/-- A field of a record: how it is read, and where the record keeps it while other fields are
set. -/
structure HasField (r : Record σ) (name : String) (decode : Decoder α) (get : σ → α) : Prop where
  isField : r.isField name = true
  get_set : ∀ {d s s'}, r.set name d s = .ok s' → decode d = .ok (get s')
  get_set_other : ∀ {other d s s'}, r.isField other = true → other ≠ name →
    r.set other d s = .ok s' → get s' = get s

section Sets

variable {name : String} {put : α → σ → σ} (h : r.Sets name decode put) {d : Document} {s s' : σ}
include h

/-- What is put into a record is what was read. -/
theorem Sets.get_set {get : σ → α} (hget : ∀ a s, get (put a s) = a)
    (hset : r.set name d s = .ok s') : decode d = .ok (get s') := by
  rw [h] at hset
  obtain ⟨a, ha, rfl⟩ := map_eq_ok.mp hset
  rw [ha, hget]

/-- What is put into a record leaves alone what it does not concern. -/
theorem Sets.get_set_other {get : σ → β} (hget : ∀ a s, get (put a s) = get s)
    (hset : r.set name d s = .ok s') : get s' = get s := by
  rw [h] at hset
  obtain ⟨a, -, rfl⟩ := map_eq_ok.mp hset
  exact hget a s

end Sets

namespace HasField

variable {name : String} {get : σ → α} (h : r.HasField name decode get) {s s' : σ}
include h

/-- A field that is written holds what its member is read as. -/
theorem of_write {v : Value} (hwrite : r.write (name, v) s = some s') :
    decode (.ofValue v) = .ok (get s') := by
  rw [write, if_pos h.isField] at hwrite
  exact h.get_set (toOption_eq_some.mp hwrite)

/-- Writing another member leaves a field as it is. -/
theorem of_write_other {member : String × Value} (hne : member.1 ≠ name)
    (hwrite : r.write member s = some s') : get s' = get s := by
  rw [write] at hwrite
  split at hwrite
  · exact h.get_set_other ‹_› hne (toOption_eq_some.mp hwrite)
  · cases hwrite
    rfl

/-- A field without a member stays as it is. -/
theorem of_writeAll_absent (hname : name ∉ members.map Prod.fst)
    (hwrite : writeAll r.write (some s) members = some s') : get s' = get s := by
  induction members generalizing s with
  | nil =>
    cases hwrite
    rfl
  | cons member members ih =>
    rw [List.map_cons, List.mem_cons, not_or] at hname
    obtain ⟨t, ht, hrest⟩ := writeAll_cons_eq_some_iff.mp hwrite
    rw [ih hname.2 hrest, h.of_write_other (Ne.symm hname.1) ht]

/-- A field holds what its one member is read as, whatever members are around it. -/
theorem of_writeAll {v : Value} (hmem : (name, v) ∈ members)
    (hnames : (members.map Prod.fst).Nodup)
    (hwrite : writeAll r.write (some s) members = some s') :
    decode (.ofValue v) = .ok (get s') := by
  induction members generalizing s with
  | nil => cases hmem
  | cons member members ih =>
    obtain ⟨hfresh, hnames'⟩ := List.nodup_cons.mp hnames
    obtain ⟨t, ht, hrest⟩ := writeAll_cons_eq_some_iff.mp hwrite
    rcases List.mem_cons.mp hmem with rfl | hmem
    · rw [h.of_write ht, h.of_writeAll_absent hfresh hrest]
    · exact ih hmem hnames' hrest

section Decode

variable {m : SortedMap String Value} (hread : r.decode (.ofValue (.ofMap m)) = .ok s)
include hread

/-- A field that has a member is what the member is read as. -/
theorem of_decode {v : Value} (hv : m.get? name = some v) : decode (.ofValue v) = .ok (get s) :=
  h.of_writeAll (SortedMap.get?_eq_some_iff.mp hv) m.nodup_keys (writeAll_of_decode hread)

/-- A field that has no member keeps its default. -/
theorem of_decode_absent (hname : m.get? name = none) : get s = get r.default := by
  refine h.of_writeAll_absent ?_ (writeAll_of_decode hread)
  intro hmem
  obtain ⟨entry, hentry, rfl⟩ := List.mem_map.mp hmem
  rw [SortedMap.get?_eq_some_iff.mpr hentry] at hname
  cases hname

end Decode

end HasField

end Record

end Isochrone.Reading
