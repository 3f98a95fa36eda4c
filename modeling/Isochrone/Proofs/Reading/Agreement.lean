import Isochrone.Proofs.Reading.Order

/-!
# Documents and the values they are read as

A document keeps the order in which its text has the members of an object; the value it is read
as has them sorted. A decoder agrees on the two if it reads one just when it reads the other, and
then alike. This is kept by all that decoders are made of, for documents that repeat no key: a
record that skips a member unread agrees because what is read can be passed over, and one that
sets its fields in the order of the members because they may be set in any order.
-/

namespace Isochrone.Reading

open Json

variable {α β σ : Type} {decode : Decoder α}

/-- A document that repeats no key is decoded like the value it is read as. -/
def Agrees (decode : Decoder α) : Prop :=
  ∀ ⦃d : Document⦄ ⦃v : Value⦄, d.read = .ok v → d.Distinct →
    (decode d).toOption = (decode (.ofValue v)).toOption

/-- A generic value is canonical, and so read from its own document as it is. -/
theorem agrees_value : Agrees value := by
  intro d v hread _
  rw [value_ofValue (d.canonical_of_read hread), value, hread]
  rfl

/-- A decoder that reads neither arrays nor objects agrees: every other document that is read is
that of its value. -/
theorem agrees_of_single
    (harray : ∀ brackets ds, (decode (.array brackets ds)).toOption = none)
    (hobject : ∀ brackets ds, (decode (.object brackets ds)).toOption = none) :
    Agrees decode := by
  intro d v hread _
  cases Document.reads_of_read hread with
  | null | bool b | number n | string s => rfl
  | array _ _ _ => rw [harray, Document.ofValue, harray]
  | object _ _ _ => rw [hobject, Value.ofMap, Document.ofValue, hobject]

theorem agrees_boolean : Agrees boolean := agrees_of_single (fun _ _ => rfl) fun _ _ => rfl

theorem agrees_number32 : Agrees number32 := agrees_of_single (fun _ _ => rfl) fun _ _ => rfl

/-- What is done with the value of a document does not depend on the document. -/
theorem Agrees.bind (h : Agrees decode) (next : α → Except Problem β) :
    Agrees fun d => decode d >>= next := by
  intro d v hread hdistinct
  simp only [toOption_bind]
  rw [h hread hdistinct]

/-- What is made of the result makes no difference. -/
theorem Agrees.functor_map (h : Agrees decode) (f : α → β) : Agrees fun d => f <$> decode d := by
  intro d v hread hdistinct
  simp only [toOption_map]
  rw [h hread hdistinct]

/-- What may be absent agrees if it agrees where it is there. -/
theorem Agrees.optional (h : Agrees decode) : Agrees (optional decode) := by
  intro d v hread hdistinct
  cases Document.reads_of_read hread with
  | null | bool b | number n | string s => rfl
  | array _ _ _ => exact h.functor_map some hread hdistinct
  | object _ _ _ => exact h.functor_map some hread hdistinct

/-- Items that are read one by one agree, by induction on the items. -/
theorem Agrees.items (h : Agrees decode) {ds : List Document} {values : List Value}
    (hread : Document.ItemsRead ds values) (hdistinct : ∀ d ∈ ds, d.Distinct) :
    (items decode ds).toOption = (items decode (Document.ofItems values)).toOption := by
  induction hread with
  | nil => rfl
  | cons hfirst _ ih =>
    obtain ⟨hd, hds⟩ := List.forall_mem_cons.mp hdistinct
    simp only [Document.ofItems, Reading.items, toOption_bind]
    rw [h hfirst hd, ih hds]

/-- A list agrees if its items do. -/
theorem Agrees.list (h : Agrees decode) : Agrees (list decode) := by
  intro d v hread hdistinct
  cases Document.reads_of_read hread with
  | null | bool b | number n | string s => rfl
  | object _ _ _ => rfl
  | @array brackets ds values henter hleave hitems =>
    cases hdistinct with
    | array hds =>
      simp only [Document.ofValue, Reading.list, toOption_bind, henter, hleave]
      rw [h.items hitems hds]
      rfl

/-- Members that are read one by one agree, by induction on the members. -/
theorem Agrees.pairs (h : Agrees decode) {ds : List (Except Fault String × Document)}
    {values : List (String × Value)} (hread : Document.MembersRead ds values)
    (hdistinct : ∀ member ∈ ds, member.2.Distinct) :
    (pairs decode ds).toOption = (pairs decode (Document.ofMembers values)).toOption := by
  induction hread with
  | nil => rfl
  | cons hfirst _ ih =>
    obtain ⟨hd, hds⟩ := List.forall_mem_cons.mp hdistinct
    simp only [Document.ofMembers, Reading.pairs, toOption_bind, hfirst.1]
    rw [h hfirst.2 hd, ih hds]

/-- A map agrees if its values do. -/
theorem Agrees.map (h : Agrees decode) : Agrees (Reading.map decode) := by
  intro d v hread hdistinct
  cases Document.reads_of_read hread with
  | null | bool b | number n | string s => rfl
  | array _ _ _ => rfl
  | @object brackets ds values henter hleave hmembers =>
    cases hdistinct with
    | object hkeys hds =>
      have hnames := hmembers.nodup hkeys
      have htext : (Reading.map decode (.object brackets ds)).toOption =
          (Reading.map decode (.ofValue (.object values))).toOption := by
        simp only [Document.ofValue, Reading.map, toOption_bind, henter, hleave]
        rw [h.pairs hmembers hds]
        rfl
      rw [htext]
      exact map_toOption_of_perm decode (perm_entries_ofList hnames) hnames

namespace Record

/-- A field agrees if that does by which it is read. -/
theorem Sets.agrees {r : Record σ} {name : String} {put : α → σ → σ} (h : r.Sets name decode put)
    (hdecode : Agrees decode) (s : σ) : Agrees fun d => r.set name d s := by
  intro d v hread hdistinct
  simp only [h _ s]
  exact hdecode.functor_map _ hread hdistinct

section Fields

variable {r : Record σ} (hset : ∀ name, r.isField name = true → ∀ s, Agrees fun d => r.set name d s)
include hset

/-- A record that is read by position agrees, by induction on the items. -/
theorem agrees_readItems {count : Nat} {fields : List (String × Bool)}
    (hfields : ∀ field ∈ fields, r.isField field.1 = true) {ds : List Document}
    {values : List Value} (hread : Document.ItemsRead ds values)
    (hdistinct : ∀ d ∈ ds, d.Distinct) (s : σ) :
    (r.readItems count fields ds s).toOption =
      (r.readItems count fields (Document.ofItems values) s).toOption := by
  induction hread generalizing fields s with
  | nil => rfl
  | cons hfirst _ ih =>
    obtain ⟨hd, hds⟩ := List.forall_mem_cons.mp hdistinct
    cases fields with
    | nil => rfl
    | cons field fields =>
      obtain ⟨hfield, hrest⟩ := List.forall_mem_cons.mp hfields
      simp only [Document.ofItems, readItems, toOption_bind]
      rw [hset field.1 hfield s hfirst hd]
      congr 1
      funext s'
      exact ih hrest hds s'

/-- A record that is read by name agrees, by induction on the members. -/
theorem agrees_readMembers {met : List String} {ds : List (Except Fault String × Document)}
    {values : List (String × Value)} (hread : Document.MembersRead ds values)
    (hdistinct : ∀ member ∈ ds, member.2.Distinct) (s : σ) :
    (r.readMembers met ds s).toOption =
      (r.readMembers met (Document.ofMembers values) s).toOption := by
  induction hread generalizing met s with
  | nil => rfl
  | @cons member value ds values hfirst _ ih =>
    obtain ⟨hd, hds⟩ := List.forall_mem_cons.mp hdistinct
    obtain ⟨written, d⟩ := member
    obtain ⟨key, v⟩ := value
    obtain ⟨rfl, hvalue⟩ := hfirst
    rw [Document.ofMembers]
    by_cases hfield : r.isField key = true
    · by_cases hmet : met.contains key = true
      · rw [readMembers_cons_repeated hfield hmet, readMembers_cons_repeated hfield hmet]
      · have hnew := Bool.of_not_eq_true hmet
        rw [readMembers_cons_field hfield hnew, readMembers_cons_field hfield hnew,
          toOption_bind, toOption_bind, hset key hfield s hvalue hd]
        congr 1
        funext s'
        exact ih hds s'
    · have hother := Bool.of_not_eq_true hfield
      rw [readMembers_cons_other hother (d.skip_of_read hvalue),
        readMembers_cons_other hother (Document.skip_of_read _ (Document.read_ofValue v))]
      exact ih hds s

/-- A record whose fields may be set in any order agrees if its fields do. -/
theorem agrees_decode (hcommutes : Commutes r.write) : Agrees r.decode := by
  intro d v hread hdistinct
  cases Document.reads_of_read hread with
  | null | bool b | number n | string s => rfl
  | @array brackets ds values henter hleave hitems =>
    cases hdistinct with
    | array hds =>
      have hlength : (Document.ofItems values).length = ds.length := by
        rw [Document.ofItems_eq, List.length_map, hitems.length_eq]
      have hfields : ∀ field ∈ r.fields, r.isField field.1 = true := fun field hfield =>
        List.contains_iff_mem.mpr (List.mem_map_of_mem hfield)
      simp only [Document.ofValue, decode, toOption_bind, henter, hleave, hlength]
      rw [agrees_readItems hset hfields hitems hds]
      rfl
  | @object brackets ds values henter hleave hmembers =>
    cases hdistinct with
    | object hkeys hds =>
      have hnames := hmembers.nodup hkeys
      have htext : (r.decode (.object brackets ds)).toOption =
          (r.decode (.ofValue (.object values))).toOption := by
        rw [decode_toOption henter hleave, agrees_readMembers hset hmembers hds, Document.ofValue,
          decode_toOption rfl rfl]
      rw [htext]
      exact decode_toOption_of_perm hcommutes (perm_entries_ofList hnames) hnames

end Fields

end Record

end Isochrone.Reading
