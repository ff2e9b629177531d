import ToolGateway.Json.Record

/-!
# Members by name

The members of an object are told apart by the texts that their names stand for, however these are
written. An object can be read as a record if every name stands for a text and no field has two
values, and then each field is the value of its name, in any order and among any other members.
Read as a table it may repeat names, and each has its last value.
-/

namespace ToolGateway.Json.Document

variable {members : List (List Piece × Document)}

/-- Every name stands for a text. -/
def NamesDecode (members : List (List Piece × Document)) : Prop :=
  ∀ member ∈ members, (text? member.1).isSome = true

/-- The values of the members whose names stand for a text. -/
def valuesOf (key : String) (members : List (List Piece × Document)) : List Document :=
  (members.filter fun member => text? member.1 == some key).map Prod.snd

/-- Members whose names are decoded have the same values. -/
theorem of_mapM_text? {named : List (String × Document)}
    (h : (members.mapM fun (name, d) => (text? name).map (·, d)) = some named) :
    NamesDecode members ∧
      ∀ key, valuesOf key members = (named.filter fun m => m.1 == key).map Prod.snd := by
  induction members generalizing named with
  | nil =>
    obtain rfl := Option.some.inj h
    exact ⟨by simp [NamesDecode], fun _ => rfl⟩
  | cons member members ih =>
    obtain ⟨name, d⟩ := member
    simp only [List.mapM_cons, Option.bind_eq_bind, Option.bind_eq_some_iff, Option.map_eq_some_iff,
      Option.pure_def, Option.some.injEq] at h
    obtain ⟨_, ⟨key, hkey, rfl⟩, rest, hrest, rfl⟩ := h
    obtain ⟨hdecode, hvalues⟩ := ih hrest
    refine ⟨List.forall_mem_cons.mpr ⟨by simp [hkey], hdecode⟩, fun asked => ?_⟩
    have htail := hvalues asked
    rw [valuesOf] at htail ⊢
    by_cases hasked : key = asked
    · simp [hkey, hasked, htail]
    · simp [hkey, hasked, htail]

/-- Names that stand for texts are decoded. -/
theorem exists_mapM_text? (h : NamesDecode members) :
    ∃ named, (members.mapM fun (name, d) => (text? name).map (·, d)) = some named := by
  induction members with
  | nil => exact ⟨[], rfl⟩
  | cons member members ih =>
    obtain ⟨name, d⟩ := member
    obtain ⟨hname, hmore⟩ := List.forall_mem_cons.mp h
    obtain ⟨key, hkey⟩ := Option.isSome_iff_exists.mp hname
    obtain ⟨named, hnamed⟩ := ih hmore
    exact ⟨(key, d) :: named, by simp [List.mapM_cons, hkey, hnamed]⟩

/-- The field of a name in a record of members is the first value of that name. -/
theorem find?_filter_contains {names : List String} {key : String} (hkey : key ∈ names)
    (named : List (String × Document)) :
    (Record.mk true (named.filter fun m => names.contains m.1)).find? key =
      ((named.filter fun m => m.1 == key).map Prod.snd).head? := by
  rw [Record.find?, List.find?_filter, List.head?_map, List.head?_filter]
  congr 2
  funext m
  by_cases hm : m.1 = key
  · simp [hm, hkey]
  · simp [hm]

/-- What may be null is null or is read. -/
theorem orNull_eq_some_iff {α : Type} {read : Document → Option α} (hnull : read .null = none)
    {d : Document} {given : Option α} :
    d.orNull read = some given ↔
      d = .null ∧ given = none ∨ ∃ a, read d = some a ∧ given = some a := by
  unfold orNull
  split
  · simp [hnull, eq_comm]
  · next hother =>
    rw [Option.map_eq_some_iff]
    constructor
    · rintro ⟨a, ha, rfl⟩
      exact Or.inr ⟨a, ha, rfl⟩
    · rintro (⟨rfl, -⟩ | ⟨a, ha, rfl⟩)
      · exact absurd rfl hother
      · exact ⟨a, ha, rfl⟩

/-- A field gives what its value gives, if what it gives is known where it is missing and where it
has one value. -/
theorem withDefault_eq_some_iff {α : Type} {gives : List Document → α → Prop} {absent : α}
    {read : Document → Option α} (hmissing : ∀ given, gives [] given ↔ given = absent)
    (hread : ∀ d given, read d = some given ↔ gives [d] given) {r : Record Document}
    {key : String} {given : α} :
    r.withDefault key absent read = some given ↔ gives (r.find? key).toList given := by
  unfold Record.withDefault
  cases r.find? key with
  | none => exact Option.some_inj.trans (eq_comm.trans (hmissing given).symm)
  | some d => exact hread d given

/-- A list of one value at most is its first. -/
theorem toList_head? {values : List Document} (h : values.length ≤ 1) :
    values.head?.toList = values := by
  match values, h with
  | [], _ => rfl
  | [_], _ => rfl

/-- An object is a record if its names can be decoded and none that is asked for occurs twice. -/
theorem record?_object_eq_some {depth : Nat} {names : List String} {r : Record Document}
    (h : (object members).record? depth names = some r) :
    NamesDecode members ∧ ∀ key ∈ names, (r.find? key).toList = valuesOf key members := by
  rw [record?] at h
  split at h
  · cases h
  · obtain ⟨named, hnamed, hr⟩ := Option.bind_eq_some_iff.mp h
    obtain ⟨hdecode, hvalues⟩ := of_mapM_text? hnamed
    unfold Record.ofMembers? at hr
    split at hr
    · next hcount =>
      obtain rfl := Option.some.inj hr
      refine ⟨hdecode, fun key hkey => ?_⟩
      have hone := of_decide_eq_true (List.all_eq_true.mp hcount key hkey)
      rw [List.countP_eq_length_filter, ← List.length_map Prod.snd, ← hvalues] at hone
      rw [find?_filter_contains hkey, ← hvalues, toList_head? hone]
    · cases hr

/-- And then it is. -/
theorem exists_record?_object {depth : Nat} (hdepth : depth ≠ 0) {names : List String}
    (hdecode : NamesDecode members) (hone : ∀ key ∈ names, (valuesOf key members).length ≤ 1) :
    ∃ r, (object members).record? depth names = some r := by
  obtain ⟨named, hnamed⟩ := exists_mapM_text? hdecode
  obtain ⟨-, hvalues⟩ := of_mapM_text? hnamed
  have hcount : (names.all fun key => decide (named.countP (·.1 == key) ≤ 1)) = true := by
    apply List.all_eq_true.mpr
    intro key hkey
    have hlength := hone key hkey
    rw [hvalues, List.length_map, ← List.countP_eq_length_filter] at hlength
    exact decide_eq_true hlength
  refine ⟨⟨true, named.filter fun m => names.contains m.1⟩, ?_⟩
  rw [record?, if_neg hdepth, Option.bind_eq_bind, hnamed, Option.bind_some, Record.ofMembers?,
    if_pos hcount]

/-- The value of a member comes before the values of later members of its name. -/
theorem valuesOf_cons (key : String) (name : List Piece) (d : Document)
    (members : List (List Piece × Document)) :
    valuesOf key ((name, d) :: members) =
      if text? name = some key then d :: valuesOf key members else valuesOf key members := by
  by_cases h : text? name = some key <;> simp [valuesOf, h]

/-- Members that make up a table have names and values, and the table has the last value of each
name. -/
theorem of_membersOnto {depth : Nat} {done table : Table Json}
    (h : membersOnto depth done members = some table) :
    NamesDecode members ∧ (∀ member ∈ members, (member.2.toJson? depth).isSome = true) ∧
      ∀ key, table.get? key =
        ((valuesOf key members).getLast?.bind (·.toJson? depth)).or (done.get? key) := by
  induction members generalizing done with
  | nil =>
    obtain rfl := Option.some.inj h
    exact ⟨List.forall_mem_nil _, List.forall_mem_nil _, fun _ => rfl⟩
  | cons member members ih =>
    obtain ⟨name, d⟩ := member
    unfold membersOnto at h
    split at h
    · next own v hname hvalue =>
      obtain ⟨hdecode, hvalues, hlast⟩ := ih h
      refine ⟨List.forall_mem_cons.mpr ⟨by simp [hname], hdecode⟩,
        List.forall_mem_cons.mpr ⟨by simp [hvalue], hvalues⟩, fun key => ?_⟩
      rw [hlast, valuesOf_cons, hname, Table.get?_insert]
      by_cases hown : own = key
      · rw [if_pos hown, if_pos (congrArg some hown)]
        cases hlater : (valuesOf key members).getLast? with
        | none => simp [List.getLast?_cons, hlater, hvalue]
        | some later =>
          -- A later member of the name has a value as well.
          have hmem : later ∈ valuesOf key members := List.mem_of_getLast? hlater
          obtain ⟨member, hmember, rfl⟩ := List.mem_map.mp hmem
          obtain ⟨w, hw⟩ :=
            Option.isSome_iff_exists.mp (hvalues member (List.mem_filter.mp hmember).1)
          simp [List.getLast?_cons, hlater, hw]
      · rw [if_neg hown, if_neg (fun heq => hown (Option.some.inj heq))]
    · cases h

/-- A document is read as a value of its own kind. -/
inductive ReadsAs : Nat → Document → Json → Prop
  | null {depth : Nat} : ReadsAs depth .null .null
  | bool {depth : Nat} (b : Bool) : ReadsAs depth (.bool b) (.bool b)
  | integer {depth : Nat} {literal : Literal} {n : Int} : ReadsAs depth (.number literal) (.integer n)
  | double {depth : Nat} {literal : Literal} {x : Binary64} :
    ReadsAs depth (.number literal) (.double x)
  | string {depth : Nat} {pieces : List Piece} {s : String} (h : text? pieces = some s) :
    ReadsAs depth (.string pieces) (.string s)
  | array {depth : Nat} {items : List Document} {values : List Json} :
    ReadsAs (depth + 1) (.array items) (.array values)
  | object {depth : Nat} {members : List (List Piece × Document)} {table : Table Json}
    (h : membersOnto depth [] members = some table) :
    ReadsAs (depth + 1) (.object members) (.object table)

/-- Every document that is read is. -/
theorem readsAs_of_toJson? {depth : Nat} {d : Document} {v : Json}
    (h : d.toJson? depth = some v) : ReadsAs depth d v := by
  cases d with
  | null =>
    obtain rfl := Option.some.inj h
    exact .null
  | bool b =>
    obtain rfl := Option.some.inj h
    exact .bool b
  | number literal =>
    rw [toJson?, Literal.toJson?] at h
    split at h
    · obtain rfl := Option.some.inj h
      exact .integer
    · obtain ⟨x, -, rfl⟩ := Option.map_eq_some_iff.mp h
      exact .double
  | string pieces =>
    obtain ⟨s, hs, rfl⟩ := Option.map_eq_some_iff.mp h
    exact .string hs
  | array items =>
    cases depth with
    | zero => cases h
    | succ depth =>
      obtain ⟨values, -, rfl⟩ := Option.map_eq_some_iff.mp h
      exact .array
  | object members =>
    cases depth with
    | zero => cases h
    | succ depth =>
      obtain ⟨table, htable, rfl⟩ := Option.map_eq_some_iff.mp h
      exact .object htable

end ToolGateway.Json.Document
