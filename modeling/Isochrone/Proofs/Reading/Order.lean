import Mathlib.Data.List.Pairwise
import Isochrone.Proofs.Json.Distinct
import Isochrone.Proofs.Reading

/-!
# The order of the members

A map and a record are read from an object by writing its members one after another. Writes of
members under different names may change places, so an object that repeats no name is read alike
in every order of its members.
-/

namespace Isochrone.Reading

open Json (Value Document)

variable {α σ : Type}

/-- Write members one after another, as long as each of them can be written. -/
def writeAll (write : String × Value → σ → Option σ) (s? : Option σ)
    (members : List (String × Value)) : Option σ :=
  members.foldl (fun s? member => s?.bind (write member)) s?

/-- Writes of members under different names may change places. -/
def Commutes (write : String × Value → σ → Option σ) : Prop :=
  ∀ member other s, member.1 ≠ other.1 →
    (write member s).bind (write other) = (write other s).bind (write member)

section Members

variable {write : String × Value → σ → Option σ} {members members' : List (String × Value)}

/-- What could not be written stays unwritten. -/
theorem writeAll_none (members : List (String × Value)) : writeAll write none members = none := by
  induction members with
  | nil => rfl
  | cons member members ih => exact ih

theorem writeAll_cons (member : String × Value) (s : σ) :
    writeAll write (some s) (member :: members) = writeAll write (write member s) members := rfl

/-- Members of distinct names are written alike in every order. -/
theorem Commutes.writeAll_of_perm (h : Commutes write) (hperm : members.Perm members')
    (hnames : (members.map Prod.fst).Nodup) (s? : Option σ) :
    writeAll write s? members = writeAll write s? members' := by
  apply hperm.foldl_eq'
  intro member hmember other hother s?
  by_cases hname : member.1 = other.1
  · rw [List.inj_on_of_nodup_map hnames hmember hother hname]
  · cases s? with
    | none => rfl
    | some s => exact h member other s hname

/-- Members of distinct names are those of their map, in another order. -/
theorem perm_entries_ofList (hnames : (members.map Prod.fst).Nodup) :
    members.Perm (SortedMap.ofList members).entries :=
  (SortedMap.entries_ofList_perm (List.pairwise_map.mp hnames)).symm

end Members

/-- Write a member into a map. -/
def writeEntry (decode : Decoder α) (member : String × Value) (m : SortedMap String α) :
    Option (SortedMap String α) :=
  (decode (.ofValue member.2)).toOption.map (m.insert member.1)

/-- Entries of different names may be written in either order. -/
theorem commutes_writeEntry (decode : Decoder α) : Commutes (writeEntry decode) := by
  intro member other m hne
  unfold writeEntry
  cases (decode (.ofValue member.2)).toOption with
  | none => simp
  | some a =>
    cases (decode (.ofValue other.2)).toOption with
    | none => rfl
    | some b => exact congrArg some (m.insert_comm hne a b)

/-- Reading all pairs and inserting them is writing the entries one by one. -/
theorem pairs_ofMembers_toOption (decode : Decoder α) (m : SortedMap String α)
    (members : List (String × Value)) :
    (pairs decode (Document.ofMembers members)).toOption.map m.insertAll =
      writeAll (writeEntry decode) (some m) members := by
  induction members generalizing m with
  | nil => rfl
  | cons member members ih =>
    rw [writeAll_cons, Document.ofMembers, pairs]
    simp only [writeEntry, toOption_bind]
    cases (decode (.ofValue member.2)).toOption with
    | none => exact (writeAll_none members).symm
    | some a =>
      rw [Option.map_some, ← ih]
      cases (pairs decode (Document.ofMembers members)).toOption with
      | none => rfl
      | some as => rfl

/-- The map read from an object is what the writes of its members leave of the empty map. -/
theorem map_toOption (decode : Decoder α) (members : List (String × Value)) :
    (map decode (.ofValue (.object members))).toOption =
      writeAll (writeEntry decode) (some .empty) members := by
  rw [← pairs_ofMembers_toOption, Document.ofValue, map]
  simp only [toOption_bind]
  cases (pairs decode (Document.ofMembers members)).toOption with
  | none => rfl
  | some as => rfl

/-- A map is read alike in every order of the members. -/
theorem map_toOption_of_perm (decode : Decoder α) {members members' : List (String × Value)}
    (hperm : members.Perm members') (hnames : (members.map Prod.fst).Nodup) :
    (map decode (.ofValue (.object members))).toOption =
      (map decode (.ofValue (.object members'))).toOption := by
  rw [map_toOption, map_toOption]
  exact (commutes_writeEntry decode).writeAll_of_perm hperm hnames _

namespace Record

variable {r : Record σ} {members members' : List (String × Value)}

/-- Whether a name is that of a field. -/
def isField (r : Record σ) (name : String) : Bool := (r.fields.map (·.1)).contains name

/-- Write a member into a record, unless it is no field. -/
def write (r : Record σ) (member : String × Value) (s : σ) : Option σ :=
  if r.isField member.1 then (r.set member.1 (.ofValue member.2) s).toOption else some s

/-- Whether a field without default is not among the names met. -/
def lacks (r : Record σ) (met : List String) : Bool :=
  r.fields.any fun field => field.2 && !met.contains field.1

/-- Two fields may be set in either order. -/
def SetCommute (r : Record σ) (name other : String) : Prop :=
  ∀ v w s,
    ((r.set name (.ofValue v) s).toOption.bind fun s => (r.set other (.ofValue w) s).toOption) =
      (r.set other (.ofValue w) s).toOption.bind fun s => (r.set name (.ofValue v) s).toOption

instance : Std.Symm r.SetCommute where
  symm _ _ h v w s := (h w v s).symm

/-- Fields whose updates may change places may be set in either order. -/
theorem Sets.setCommute {β : Type} {name other : String} {decode : Decoder α}
    {decode' : Decoder β} {put : α → σ → σ} {put' : β → σ → σ} (h : r.Sets name decode put)
    (h' : r.Sets other decode' put') (hput : ∀ a b s, put' b (put a s) = put a (put' b s)) :
    r.SetCommute name other := by
  intro v w s
  simp only [h _, h' _, toOption_map]
  cases (decode (.ofValue v)).toOption with
  | none => simp
  | some a =>
    cases (decode' (.ofValue w)).toOption with
    | none => rfl
    | some b => exact congrArg some (hput a b s)

/-- Members are written in any order if every two fields may be set in either. -/
theorem commutes_write (h : (r.fields.map (·.1)).Pairwise r.SetCommute) : Commutes r.write := by
  intro member other s hne
  unfold write
  by_cases hmember : r.isField member.1 = true
  · by_cases hother : r.isField other.1 = true
    · have hset : r.SetCommute member.1 other.1 :=
        h.forall (List.contains_iff_mem.mp hmember) (List.contains_iff_mem.mp hother) hne
      simp only [if_pos hmember, if_pos hother]
      exact hset member.2 other.2 s
    · simp only [if_neg hother, Option.bind_some, Option.bind_fun_some]
  · simp only [if_neg hmember, Option.bind_some, Option.bind_fun_some]

/-- Whether a field is lacking depends on the fields met only. -/
theorem lacks_congr {met met' : List String}
    (h : ∀ name, r.isField name = true → (name ∈ met ↔ name ∈ met')) :
    r.lacks met = r.lacks met' := by
  rw [lacks, lacks, Bool.eq_iff_iff, List.any_eq_true, List.any_eq_true]
  refine exists_congr fun field => and_congr_right fun hfield => ?_
  have hname : r.isField field.1 = true := List.contains_iff_mem.mpr (List.mem_map_of_mem hfield)
  have hsame : met.contains field.1 = met'.contains field.1 := by
    rw [Bool.eq_iff_iff, List.contains_iff_mem, List.contains_iff_mem]
    exact h field.1 hname
  rw [hsame]

/-- Members that were not met before are not met with another one either. -/
theorem fresh_cons {met : List String} {member : String × Value}
    (hmet : ∀ other ∈ members, other.1 ∉ met) (hfresh : member.1 ∉ members.map Prod.fst) :
    ∀ other ∈ members, other.1 ∉ member.1 :: met := by
  intro other hother hmem
  rcases List.mem_cons.mp hmem with hname | hmem
  · exact hfresh (hname ▸ List.mem_map_of_mem hother)
  · exact hmet other hother hmem

/-- The members of an object are read into a record as they are written into it. -/
theorem readMembers_toOption {met : List String} (hmet : ∀ member ∈ members, member.1 ∉ met)
    (hnames : (members.map Prod.fst).Nodup) (s : σ) :
    (r.readMembers met (Document.ofMembers members) s).toOption =
      (writeAll r.write (some s) members).map fun s' =>
        (((members.map Prod.fst).filter r.isField).reverse ++ met, s') := by
  induction members generalizing met s with
  | nil => rfl
  | cons member members ih =>
    obtain ⟨hfirst, hrest⟩ := List.forall_mem_cons.mp hmet
    obtain ⟨hfresh, hnames'⟩ := List.nodup_cons.mp hnames
    rw [writeAll_cons, Document.ofMembers]
    by_cases hfield : r.isField member.1 = true
    · have hnew : met.contains member.1 = false := by simpa using hfirst
      rw [readMembers_cons_field hfield hnew, toOption_bind, write, if_pos hfield]
      cases (r.set member.1 (.ofValue member.2) s).toOption with
      | none => rw [writeAll_none]; rfl
      | some s' =>
        rw [Option.bind_some, ih (fresh_cons hrest hfresh) hnames']
        simp [hfield]
    · have hskip := Document.skip_of_read _ (Document.read_ofValue member.2)
      rw [readMembers_cons_other (Bool.of_not_eq_true hfield) hskip, ih hrest hnames', write,
        if_neg hfield]
      simp [hfield]

/-- Behind sound brackets a record is what the members leave, unless they lack a field. -/
theorem decode_toOption {brackets : Json.Brackets} {ds : List (Except Json.Fault String × Document)}
    (henter : Document.enter brackets = .ok ()) (hleave : Document.leave brackets = .ok ()) :
    (r.decode (.object brackets ds)).toOption =
      (r.readMembers [] ds r.default).toOption.bind fun met =>
        if r.lacks met.1 then none else some met.2 := by
  rw [decode, henter, hleave]
  simp only [ofFault, toOption_bind]
  cases (r.readMembers [] ds r.default).toOption with
  | none => rfl
  | some met =>
    have hlacks : r.lacks met.1 =
        (r.fields.find? fun field => field.2 && !met.1.contains field.1).isSome :=
      List.isSome_find?.symm
    simp only [Except.toOption, Option.bind_some, hlacks]
    cases hfind : r.fields.find? fun field => field.2 && !met.1.contains field.1 with
    | none => rfl
    | some field => rfl

/-- The record read from an object is what the writes of its members leave of the defaults. -/
theorem decode_object_toOption (hnames : (members.map Prod.fst).Nodup) :
    (r.decode (.ofValue (.object members))).toOption =
      if r.lacks (members.map Prod.fst) then none
      else writeAll r.write (some r.default) members := by
  have hlacks : r.lacks (((members.map Prod.fst).filter r.isField).reverse ++ []) =
      r.lacks (members.map Prod.fst) := by
    apply lacks_congr
    intro name hname
    simp [hname]
  rw [Document.ofValue, decode_toOption rfl rfl,
    readMembers_toOption (fun _ _ => List.not_mem_nil) hnames]
  cases writeAll r.write (some r.default) members with
  | none => simp
  | some s =>
    rw [Option.map_some, Option.bind_some, hlacks]

/-- A record is read alike in every order of the members. -/
theorem decode_toOption_of_perm (h : Commutes r.write) (hperm : members.Perm members')
    (hnames : (members.map Prod.fst).Nodup) :
    (r.decode (.ofValue (.object members))).toOption =
      (r.decode (.ofValue (.object members'))).toOption := by
  have hperm' := hperm.map Prod.fst
  rw [decode_object_toOption hnames, decode_object_toOption (hperm'.nodup_iff.mp hnames),
    h.writeAll_of_perm hperm hnames, lacks_congr fun name _ => hperm'.mem_iff]

end Record

end Isochrone.Reading
