import Ormap.Config.Json
/-!
# Serialization — what is written of a descriptor is read as that descriptor

Every kind of record is read back from what is written of it, so that a descriptor read from any document is written and
read again as itself.  Readers go by the names of fields: they pass over members that they do not know, and read a field
with a default, when it is missing, as if the default were written (`Json.Alike`).
-/
namespace Ormap
namespace Json

variable {α : Type} {read : Json → Option α} {write : α → Json} {default : α} {name n : String} {j : Json}
  {names : List String} {defaults fields fields' pre post : List (String × Json)}

/-! ## Lists, options and numbers -/

theorem items?_map (h : ∀ x, read (write x) = some x) : ∀ xs : List α, items? read (xs.map write) = some xs
  | [] => rfl
  | x :: xs => by
    rw [List.map_cons]
    unfold items?
    rw [h, items?_map h xs]

@[simp] theorem list?_ofList (h : ∀ x, read (write x) = some x) (xs : List α) :
    list? read (ofList write xs) = some xs := items?_map h xs

/-- What may be missing is read back, as long as nothing is written as null. -/
@[simp] theorem nullable?_ofOption (h : ∀ x, read (write x) = some x) (hnull : ∀ x, write x ≠ null) (o : Option α) :
    nullable? read (ofOption write o) = some o := by
  cases o with
  | none => rfl
  | some x =>
    unfold ofOption nullable?
    split
    · rename_i hx
      exact absurd hx (hnull x)
    · rw [h]
      rfl

@[simp] theorem string?_str (s : String) : string? (str s) = some s := rfl

@[simp] theorem nullable?_string (o : Option String) : nullable? string? (ofOption str o) = some o :=
  nullable?_ofOption string?_str nofun o

@[simp] theorem list?_string (xs : List String) : list? string? (ofList str xs) = some xs := list?_ofList string?_str xs

@[simp] theorem bool?_bool (b : Bool) : bool? (bool b) = some b := rfl

@[simp] theorem word32?_toNat (n : UInt32) : word32? (int n.toNat) = some n := by
  have h : (0 : Int) ≤ n.toNat ∧ (n.toNat : Int) < UInt32.size := ⟨Int.natCast_nonneg _, by exact_mod_cast n.toNat_lt⟩
  simp only [word32?, if_pos h, Int.toNat_natCast, UInt32.ofNat_toNat]

@[simp] theorem word64?_toNat (n : UInt64) : word64? (int n.toNat) = some n := by
  have h : (0 : Int) ≤ n.toNat ∧ (n.toNat : Int) < UInt64.size := ⟨Int.natCast_nonneg _, by exact_mod_cast n.toNat_lt⟩
  simp only [word64?, if_pos h, Int.toNat_natCast, UInt64.ofNat_toNat]

/-! ## Fields by their names -/

@[simp] theorem record?_obj (names : List String) (fields : List (String × Json)) :
    record? names (obj fields) = some fields := rfl

theorem member?_insert (h : name ≠ n) : ∀ pre, member? n (pre ++ (name, j) :: post) = member? n (pre ++ post)
  | [] => by simp [member?, h]
  | p :: pre => by simp [member?, member?_insert h pre]

@[simp] theorem member?_self : member? n ((n, j) :: fields) = some j := by simp [member?]

@[simp] theorem member?_cons (h : name ≠ n) : member? n ((name, j) :: fields) = member? n fields :=
  member?_insert h []

@[simp] theorem required_self : required ((n, j) :: fields) n read = read j := by simp [required]

@[simp] theorem required_cons (h : name ≠ n) : required ((name, j) :: fields) n read = required fields n read := by
  simp [required, h]

@[simp] theorem defaulted_self : defaulted ((n, j) :: fields) n default read = read j := by simp [defaulted]

@[simp] theorem defaulted_cons (h : name ≠ n) :
    defaulted ((name, j) :: fields) n default read = defaulted fields n default read := by
  simp [defaulted, h]

@[simp] theorem optional_self : Json.optional ((n, j) :: fields) n read = nullable? read j := defaulted_self

@[simp] theorem optional_cons (h : name ≠ n) :
    Json.optional ((name, j) :: fields) n read = Json.optional fields n read := defaulted_cons h

/-- Whether two objects have the same in every named field, a missing one counting as its default. -/
def Alike (names : List String) (defaults fields fields' : List (String × Json)) : Prop :=
  ∀ n ∈ names, (member? n fields).or (member? n defaults) = (member? n fields').or (member? n defaults)

/-- A member of another name makes no difference. -/
theorem alike_unknown (h : name ∉ names) (pre post : List (String × Json)) :
    Alike names defaults (pre ++ (name, j) :: post) (pre ++ post) := by
  intro n hn
  have hne : name ≠ n := by
    rintro rfl
    exact h hn
  rw [member?_insert hne]

/-- Whether a field is missing or has its default makes no difference. -/
theorem alike_missing (h : member? name defaults = some j) (hm : member? name fields = none) :
    Alike names defaults ((name, j) :: fields) fields := by
  intro n _
  by_cases hn : name = n
  · subst hn
    rw [member?_self, h, hm]
    rfl
  · rw [member?_cons hn]

/-- What a field with a default reads as goes by its value or else the default's. -/
theorem defaulted_eq (hd : (member? n defaults).bind read = some default) :
    defaulted fields n default read = ((member? n fields).or (member? n defaults)).bind read := by
  unfold defaulted
  cases member? n fields with
  | none => rw [Option.none_or, hd]
  | some j => rfl

theorem Alike.required (h : Alike names defaults fields fields') (hn : n ∈ names) (hd : member? n defaults = none) :
    required fields n read = required fields' n read := by
  have h := h n hn
  rw [hd, Option.or_none, Option.or_none] at h
  unfold Json.required
  rw [h]

theorem Alike.defaulted (h : Alike names defaults fields fields') (hn : n ∈ names)
    (hd : (member? n defaults).bind read = some default) :
    defaulted fields n default read = defaulted fields' n default read := by
  rw [defaulted_eq hd, defaulted_eq hd, h n hn]

theorem Alike.optional (h : Alike names defaults fields fields') (hn : n ∈ names)
    (hd : (member? n defaults).bind (nullable? read) = some none) :
    Json.optional fields n read = Json.optional fields' n read := h.defaulted hn hd

/-- Whether a reader reads alike objects as the same. -/
def Lenient (read : Json → Option α) (names : List String) (defaults : List (String × Json)) : Prop :=
  ∀ fields fields', Alike names defaults fields fields' → read (obj fields) = read (obj fields')

end Json

open Json (Lenient)

/-! ## Names of variants -/

namespace Strategy

@[simp] theorem ofJson?_toJson (s : Strategy) : ofJson? s.toJson = some s := by
  cases s <;> decide

@[simp] theorem toJson_ne_null (s : Strategy) : s.toJson ≠ .null := nofun

end Strategy

namespace ReferentialAction

@[simp] theorem ofJson?_toJson (a : ReferentialAction) : ofJson? a.toJson = some a := by
  cases a <;> decide

@[simp] theorem toJson_ne_null (a : ReferentialAction) : a.toJson ≠ .null := nofun

end ReferentialAction

@[simp] theorem DiscriminatorKind.ofJson?_toJson (k : DiscriminatorKind) : ofJson? k.toJson = some k := by
  cases k <;> decide

@[simp] theorem Cardinality.ofJson?_toJson (c : Cardinality) : ofJson? c.toJson = some c := by
  cases c <;> decide

@[simp] theorem Attribute.ofJson?_toJson (a : Attribute) : ofJson? a.toJson = some a := by
  cases a with
  | choice variants => simp [ofJson?, toJson, Json.variant?]
  | _ => decide

/-! ## Fields -/

namespace ColumnDescriptor

def defaults : List (String × Json) :=
  [("name", .null), ("nullable", .bool true), ("unique", .bool false), ("default_value", .null), ("definition", .null)]

@[simp] theorem ofJson?_toJson (c : ColumnDescriptor) : ofJson? c.toJson = some c := by
  simp [ofJson?, toJson]

theorem lenient : Lenient ofJson? fieldNames defaults := by
  intro fields fields' h
  simp (disch := first | decide | rfl) [ofJson?, h.defaulted, h.optional]

end ColumnDescriptor

namespace JoinColumnDescriptor

def defaults : List (String × Json) :=
  [("name", .null), ("referenced_column", .null), ("nullable", .bool true), ("unique", .bool false),
    ("on_update", .null), ("on_delete", .null)]

@[simp] theorem ofJson?_toJson (c : JoinColumnDescriptor) : ofJson? c.toJson = some c := by
  simp [ofJson?, toJson]

theorem lenient : Lenient ofJson? fieldNames defaults := by
  intro fields fields' h
  simp (disch := first | decide | rfl) [ofJson?, h.defaulted, h.optional]

end JoinColumnDescriptor

namespace JoinTableDescriptor

def defaults : List (String × Json) :=
  [("name", .null), ("join_columns", .arr []), ("inverse_join_columns", .arr [])]

@[simp] theorem ofJson?_toJson (t : JoinTableDescriptor) : ofJson? t.toJson = some t := by
  simp [ofJson?, toJson]

@[simp] theorem toJson_ne_null (t : JoinTableDescriptor) : t.toJson ≠ .null := nofun

theorem lenient : Lenient ofJson? fieldNames defaults := by
  intro fields fields' h
  simp (disch := first | decide | rfl) [ofJson?, h.defaulted, h.optional]

end JoinTableDescriptor

namespace RelationshipDescriptor

def defaults : List (String × Json) :=
  [("mapped_by", .null), ("join_columns", .arr []), ("join_table", .null)]

@[simp] theorem ofJson?_toJson (r : RelationshipDescriptor) : ofJson? r.toJson = some r := by
  simp [ofJson?, toJson]

theorem lenient : Lenient ofJson? fieldNames defaults := by
  intro fields fields' h
  simp (disch := first | decide | rfl) [ofJson?, h.required, h.defaulted, h.optional]

end RelationshipDescriptor

namespace FieldMapping

def columnDefaults : List (String × Json) :=
  [("id", .bool false), ("column", ColumnDescriptor.toJson {})]

@[simp] theorem ofJson?_toJson (m : FieldMapping) : ofJson? m.toJson = some m := by
  cases m with
  | column type id c => simp [ofJson?, toJson, Json.variant?, columnOfJson?]
  | relationship r => simp [ofJson?, toJson, Json.variant?]

theorem column_lenient : Lenient columnOfJson? columnFieldNames columnDefaults := by
  intro fields fields' h
  simp (disch := first | decide | rfl) [columnOfJson?, h.required, h.defaulted]

end FieldMapping

namespace FieldDescriptor

def defaults : List (String × Json) :=
  [("transient", .bool false)]

@[simp] theorem ofJson?_toJson (f : FieldDescriptor) : ofJson? f.toJson = some f := by
  simp [ofJson?, toJson]

theorem lenient : Lenient ofJson? fieldNames defaults := by
  intro fields fields' h
  simp (disch := first | decide | rfl) [ofJson?, h.required, h.defaulted]

end FieldDescriptor

/-! ## Entities and databases -/

namespace TableDescriptor

def defaults : List (String × Json) :=
  [("name", .null), ("unique_constraints", .arr [])]

@[simp] theorem ofJson?_toJson (t : TableDescriptor) : ofJson? t.toJson = some t := by
  simp [ofJson?, toJson]

@[simp] theorem toJson_ne_null (t : TableDescriptor) : t.toJson ≠ .null := nofun

theorem lenient : Lenient ofJson? fieldNames defaults := by
  intro fields fields' h
  simp (disch := first | decide | rfl) [ofJson?, h.defaulted, h.optional]

end TableDescriptor

namespace DiscriminatorDescriptor

def defaults : List (String × Json) :=
  [("name", .str "dtype"), ("kind", DiscriminatorKind.string.toJson), ("length", .null), ("definition", .null)]

@[simp] theorem ofJson?_toJson (c : DiscriminatorDescriptor) : ofJson? c.toJson = some c := by
  simp [ofJson?, toJson]

@[simp] theorem toJson_ne_null (c : DiscriminatorDescriptor) : c.toJson ≠ .null := nofun

theorem lenient : Lenient ofJson? fieldNames defaults := by
  intro fields fields' h
  simp (disch := first | decide | rfl) [ofJson?, h.defaulted, h.optional]

end DiscriminatorDescriptor

namespace EntityDescriptor

def defaults : List (String × Json) :=
  [("ancestors", .arr []), ("is_abstract", .bool false), ("table", .null), ("inheritance", .null),
    ("discriminator_column", .null), ("discriminator_value", .null), ("fields", .arr [])]

@[simp] theorem ofJson?_toJson (d : EntityDescriptor) : ofJson? d.toJson = some d := by
  simp [ofJson?, toJson]

theorem lenient : Lenient ofJson? fieldNames defaults := by
  intro fields fields' h
  simp (disch := first | decide | rfl) [ofJson?, h.required, h.defaulted, h.optional]

end EntityDescriptor

namespace Config

def defaults : List (String × Json) :=
  [("default_inheritance", Strategy.joined.toJson), ("default_on_update", ReferentialAction.noAction.toJson),
    ("default_on_delete", ReferentialAction.noAction.toJson)]

-- The version stands here as any document that reads as it: the kernel would count down from its bound.
theorem ofJson?_members (c : Config) {version : Json} (hv : Json.word32? version = some c.version) :
    ofJson? (.obj [("name", .str c.name), ("version", version), ("default_inheritance", c.defaultInheritance.toJson),
      ("default_on_update", c.defaultOnUpdate.toJson), ("default_on_delete", c.defaultOnDelete.toJson)]) = some c := by
  simp [ofJson?, hv]

theorem ofJson?_toJson (c : Config) : ofJson? c.toJson = some c :=
  ofJson?_members c (Json.word32?_toNat c.version)

theorem lenient : Lenient ofJson? fieldNames defaults := by
  intro fields fields' h
  simp (disch := first | decide | rfl) [ofJson?, h.required, h.defaulted]

end Config

/-- **Descriptors and configurations survive serialization.**  What is written of one is read as it.  What is read from
any document is read again from what is written of it.  Members of unknown names make no difference, and neither does it
whether a field is missing or has its default, in records of every kind. -/
theorem survives_serialization :
    (∀ d, EntityDescriptor.ofJson? d.toJson = some d) ∧ (∀ c, Config.ofJson? c.toJson = some c) ∧
    (∀ j d, EntityDescriptor.ofJson? j = some d → EntityDescriptor.ofJson? d.toJson = some d) ∧
    (∀ j c, Config.ofJson? j = some c → Config.ofJson? c.toJson = some c) ∧
    Lenient EntityDescriptor.ofJson? EntityDescriptor.fieldNames EntityDescriptor.defaults ∧
    Lenient TableDescriptor.ofJson? TableDescriptor.fieldNames TableDescriptor.defaults ∧
    Lenient DiscriminatorDescriptor.ofJson? DiscriminatorDescriptor.fieldNames DiscriminatorDescriptor.defaults ∧
    Lenient FieldDescriptor.ofJson? FieldDescriptor.fieldNames FieldDescriptor.defaults ∧
    Lenient FieldMapping.columnOfJson? FieldMapping.columnFieldNames FieldMapping.columnDefaults ∧
    Lenient ColumnDescriptor.ofJson? ColumnDescriptor.fieldNames ColumnDescriptor.defaults ∧
    Lenient RelationshipDescriptor.ofJson? RelationshipDescriptor.fieldNames RelationshipDescriptor.defaults ∧
    Lenient JoinColumnDescriptor.ofJson? JoinColumnDescriptor.fieldNames JoinColumnDescriptor.defaults ∧
    Lenient JoinTableDescriptor.ofJson? JoinTableDescriptor.fieldNames JoinTableDescriptor.defaults ∧
    Lenient Config.ofJson? Config.fieldNames Config.defaults :=
  ⟨EntityDescriptor.ofJson?_toJson, Config.ofJson?_toJson, fun _ d _ => EntityDescriptor.ofJson?_toJson d,
    fun _ c _ => Config.ofJson?_toJson c, EntityDescriptor.lenient, TableDescriptor.lenient,
    DiscriminatorDescriptor.lenient, FieldDescriptor.lenient, FieldMapping.column_lenient, ColumnDescriptor.lenient,
    RelationshipDescriptor.lenient, JoinColumnDescriptor.lenient, JoinTableDescriptor.lenient, Config.lenient⟩

/-- What little is written of a ship with a crew. -/
def shipMembers : List (String × Json) :=
  [("type_name", .str "Ship"), ("discriminator_column", .obj []),
    ("fields", .arr
      [.obj [("name", .str "rig"), ("mapping", .obj [("Column", .obj [("attribute",
        .obj [("Enum", .arr [.str "SLOOP", .str "BRIG"])])])])],
      .obj [("name", .str "crew"), ("mapping", .obj [("Relationship", .obj [("kind", .str "OneToMany"),
        ("target", .str "Sailor"), ("join_table", .obj [("join_columns", .arr [.obj []]), ("since", .int 1)])])])]])]

/-- The descriptor that is read of it. -/
def ship : EntityDescriptor where
  typeName := "Ship"
  discriminatorColumn := some { name := "dtype", kind := .string }
  fields := [{ name := "rig", mapping := .column (.choice ["SLOOP", "BRIG"]) false {} },
    { name := "crew", mapping := .relationship
        { kind := .oneToMany, target := "Sailor", joinTable := some { joinColumns := [{}] } } }]

/-- The ship is read with its defaults, also with a remark or with a default written, and is read again. -/
theorem ship_survives :
    EntityDescriptor.ofJson? (.obj shipMembers) = some ship ∧
    EntityDescriptor.ofJson? (.obj (("remark", .str "laid up") :: shipMembers)) = some ship ∧
    EntityDescriptor.ofJson? (.obj (("is_abstract", .bool false) :: shipMembers)) = some ship ∧
    EntityDescriptor.ofJson? ship.toJson = some ship := by
  have hread : EntityDescriptor.ofJson? (.obj shipMembers) = some ship := by rfl
  obtain ⟨-, -, hagain, -, hlenient, -⟩ := survives_serialization
  refine ⟨hread, ?_, ?_, hagain _ ship hread⟩
  · exact (hlenient _ _ (Json.alike_unknown (by decide) [] shipMembers)).trans hread
  · exact (hlenient _ _ (Json.alike_missing (by rfl) (by rfl))).trans hread

end Ormap
