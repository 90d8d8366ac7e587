import ProtoUpkeep.Config.Record

/-!
# Settings that are given in part

An object that gives some fields of settings overlays the defaults: the fields that it gives have the
given values, all others their defaults, and members that name no field are passed over
(`StatusSettings.ofValue?_part`). The anchors are such an object themselves, so each of them has its own
default (`Anchor.allOfValue?_part`); the members of an anchor have none, and a table of acronyms is
taken as it is.

The members of the settings may stand in any order, so what is written can be read back from the
sorted value (`StatusSettings.ofValue?_sorted`).
-/

namespace ProtoUpkeep

variable {α F : Type} {members : List (Text × Value)} {v w : Value}

/-! ## Objects that give some fields -/

/-- The object gives some fields: each of these has a value that is meant, and the others are missing.
It may have other members. -/
structure GivesPart (key : F → Text) (Means : F → Value → Prop) (given : F → Bool)
    (members : List (Text × Value)) : Prop where
  /-- The fields that are given. -/
  of_given : ∀ f, given f = true → ∃ v, members.lookup (key f) = some v ∧ Means f v
  /-- The fields that are missing. -/
  of_missing : ∀ f, given f = false → members.lookup (key f) = none

/-- The value is an object with all members of another one, and perhaps more. -/
def Value.Extends (v w : Value) : Prop :=
  ∃ members, w = .object members ∧ ∀ key x, v.member? key = some x → members.lookup key = some x

/-- A field that is given has its value, and one that is missing its default. -/
theorem GivesPart.field {key : F → Text} {Means : F → Value → Prop} {given : F → Bool}
    (h : GivesPart key Means given members) (f : F) (name : Text) (hname : key f = name)
    (read : Value → Option α) {value : α} (default : α)
    (hread : ∀ v, Means f v → read v = some value) :
    (Fields.named members).field name read default =
      some (if given f then value else default, .named members) := by
  rw [Fields.field, Fields.next, ← hname]
  cases hgiven : given f with
  | false =>
    rw [h.of_missing f hgiven]
    rfl
  | true =>
    obtain ⟨v, hlookup, hmeans⟩ := h.of_given f hgiven
    simp only [hlookup, hread v hmeans]
    rfl

/-! ## Dictionaries -/

namespace Dictionary

/-- A key above all others is put last. -/
theorem put_of_above {key value : Text} {entries : List (Text × Text)} (h : ∀ e ∈ entries, e.1 < key) :
    put key value entries = entries ++ [(key, value)] := by
  induction entries with
  | nil => rfl
  | cons e rest ih =>
    have hlt := h e List.mem_cons_self
    rw [put, if_neg (List.lt_asymm hlt), if_pos hlt, ih fun e he => h e (List.mem_cons_of_mem _ he)]
    rfl

/-- Entries in ascending order are put as they are. -/
theorem foldl_insert (entries : List (Text × Text)) (d : Dictionary)
    (h : (d.entries ++ entries).Pairwise fun a b => a.1 < b.1) :
    (entries.foldl (fun d e => d.insert e.1 e.2) d).entries = d.entries ++ entries := by
  induction entries generalizing d with
  | nil => simp
  | cons e entries ih =>
    have hput : (d.insert e.1 e.2).entries = d.entries ++ [e] :=
      put_of_above fun a ha => (List.pairwise_append.1 h).2.2 a ha e List.mem_cons_self
    rw [List.foldl_cons, ih, hput, List.append_assoc]
    · rfl
    · rwa [hput, List.append_assoc]

/-- A dictionary is that of its entries. -/
theorem ofList_entries (d : Dictionary) : ofList d.entries = d :=
  Dictionary.ext ((foldl_insert d.entries ∅ d.ascending).trans (List.nil_append _))

end Dictionary

namespace Value

/-- A dictionary is read back from its value. -/
theorem dictionary?_ofDictionary (d : Dictionary) : dictionary? (ofDictionary d) = some d := by
  have hentries : (d.entries.map fun e => (e.1, Value.text e.2)).mapM
      (fun m => (text? m.2).map fun t => (m.1, t)) = some d.entries := by
    induction d.entries with
    | nil => rfl
    | cons e entries ih =>
      rw [List.map_cons, List.mapM_cons, ih]
      rfl
  rw [ofDictionary, dictionary?, hentries]
  exact congrArg some d.ofList_entries

/-- A text is put among texts. -/
theorem put_texts (key text : Text) (entries : List (Text × Text)) :
    put key (.text text) (entries.map fun e => (e.1, .text e.2)) =
      (Dictionary.put key text entries).map fun e => (e.1, .text e.2) := by
  induction entries with
  | nil => rfl
  | cons e entries ih =>
    rw [List.map_cons, put, Dictionary.put, ih]
    split
    · rfl
    · split <;> rfl

/-- Members that are texts are sorted as a dictionary is. -/
theorem foldl_put_texts (entries : List (Text × Text)) (d : Dictionary) :
    (entries.map fun e => (e.1, Value.text e.2)).foldl (fun ms m => put m.1 m.2 ms)
        (d.entries.map fun e => (e.1, Value.text e.2)) =
      (entries.foldl (fun d e => d.insert e.1 e.2) d).entries.map fun e => (e.1, Value.text e.2) := by
  induction entries generalizing d with
  | nil => rfl
  | cons e entries ih =>
    rw [List.map_cons, List.foldl_cons, put_texts]
    exact ih (d.insert e.1 e.2)

/-- The value of a dictionary is sorted. -/
theorem sorted_ofDictionary (d : Dictionary) : (ofDictionary d).sorted = ofDictionary d := by
  have hmembers : sortedMembers (d.entries.map fun e => (e.1, Value.text e.2)) =
      d.entries.map fun e => (e.1, Value.text e.2) := by
    induction d.entries with
    | nil => rfl
    | cons e entries ih =>
      rw [List.map_cons, sortedMembers, ih]
      simp only [sorted]
  have hlist := foldl_put_texts d.entries ∅
  rw [← Dictionary.ofList, d.ofList_entries] at hlist
  rw [ofDictionary, sorted, hmembers, sortMembers]
  exact congrArg object hlist

/-- An object has its own members. -/
theorem extends_refl (members : List (Text × Value)) : Extends (.object members) (.object members) :=
  ⟨members, rfl, fun _ _ h => h⟩

/-- An object has its members beside another one. -/
theorem extends_cons {name : Text} (h : members.lookup name = none) (x : Value) :
    Extends (.object members) (.object ((name, x) :: members)) := by
  refine ⟨_, rfl, fun key y hmember => ?_⟩
  replace hmember : members.lookup key = some y := hmember
  have hne : (key == name) = false := by
    rw [beq_eq_false_iff_ne]
    rintro rfl
    cases h.symm.trans hmember
  rw [List.lookup_cons, hne]
  exact hmember

end Value

/-! ## Anchors -/

/-- The name of the member that holds the anchor of a section. -/
def Section.key : Section → Text
  | caseDeclarations => "case_declarations"
  | initCases => "init_cases"
  | rawValueCases => "raw_value_cases"
  | allCases => "all_cases"
  | nameMap => "name_map"

/-- The values of one family for some sections, and those of another for the others. -/
def PerSection.overlay (p q : PerSection α) (given : Section → Bool) : PerSection α where
  caseDeclarations := if given .caseDeclarations then p.caseDeclarations else q.caseDeclarations
  initCases := if given .initCases then p.initCases else q.initCases
  rawValueCases := if given .rawValueCases then p.rawValueCases else q.rawValueCases
  allCases := if given .allCases then p.allCases else q.allCases
  nameMap := if given .nameMap then p.nameMap else q.nameMap

namespace Anchor

/-- An anchor is read from an object that has its members. -/
theorem ofValue?_of_extends {a : Anchor} (h : a.toValue.Extends v) : ofValue? v = some a := by
  obtain ⟨members, rfl, hmembers⟩ := h
  cases a with
  | marker text =>
    have hkind := hmembers "kind" (.text "marker") rfl
    have htext := hmembers "text" (.text text) rfl
    have hmember : memberOfKind? "marker" = some "text".toList := rfl
    simp only [ofValue?, hkind, Value.text?, hmember, bind, Option.bind, htext]
    rfl
  | pattern regex =>
    have hkind := hmembers "kind" (.text "pattern") rfl
    have hregex := hmembers "regex" (.text regex) rfl
    have hmember : memberOfKind? "pattern" = some "regex".toList := rfl
    simp only [ofValue?, hkind, Value.text?, hmember, bind, Option.bind, hregex]
    rfl

/-- The value gives the anchors of some sections, each by an object that may have other members too. -/
def IsPart (p : PerSection Anchor) (given : Section → Bool) (v : Value) : Prop :=
  ∃ members, v = .object members ∧
    GivesPart Section.key (fun sec v => (p.get sec).toValue.Extends v) given members

/-- Anchors that are given in part overlay the defaults. -/
theorem allOfValue?_part {p : PerSection Anchor} {given : Section → Bool} (h : IsPart p given v) :
    allOfValue? v = some (p.overlay Anchor.defaults given) := by
  obtain ⟨members, rfl, hpart⟩ := h
  have hfield := fun sec (name : Text) (hname : Section.key sec = name) (default : Anchor) =>
    hpart.field sec name hname ofValue? default fun v hv => ofValue?_of_extends hv
  have hcaseDeclarations := hfield .caseDeclarations "case_declarations" rfl
    Anchor.defaults.caseDeclarations
  have hinitCases := hfield .initCases "init_cases" rfl Anchor.defaults.initCases
  have hrawValueCases := hfield .rawValueCases "raw_value_cases" rfl Anchor.defaults.rawValueCases
  have hallCases := hfield .allCases "all_cases" rfl Anchor.defaults.allCases
  have hnameMap := hfield .nameMap "name_map" rfl Anchor.defaults.nameMap
  simp only [allOfValue?, Fields.ofValue?, bind, Option.bind, hcaseDeclarations, hinitCases,
    hrawValueCases, hallCases, hnameMap]
  rfl

/-- An anchor is written with its members in order. -/
theorem sorted_toValue (a : Anchor) : a.toValue.sorted = a.toValue := by
  cases a <;> rfl

/-- Anchors that are written are given, all of them. -/
theorem isPart_sorted (p : PerSection Anchor) : IsPart p (fun _ => true) (allToValue p).sorted := by
  refine ⟨[("all_cases", p.allCases.toValue.sorted),
    ("case_declarations", p.caseDeclarations.toValue.sorted),
    ("init_cases", p.initCases.toValue.sorted), ("name_map", p.nameMap.toValue.sorted),
    ("raw_value_cases", p.rawValueCases.toValue.sorted)], rfl, fun sec _ => ?_, by simp⟩
  have hextends : ∀ a : Anchor, a.toValue.Extends a.toValue.sorted := by
    intro a
    rw [sorted_toValue]
    cases a <;> exact Value.extends_refl _
  cases sec <;> exact ⟨_, rfl, hextends _⟩

end Anchor

/-! ## Settings -/

namespace StatusSettings

/-- A field of the settings. -/
inductive Field where
  /-- The name of the enum. -/
  | enumName
  /-- The proto file. -/
  | protoPath
  /-- The Swift file. -/
  | swiftPath
  /-- The deprecation marker. -/
  | deprecatedMarker
  /-- The acronyms. -/
  | acronyms
  /-- The anchors. -/
  | anchors
deriving DecidableEq, Repr

/-- The name of the member that holds a field. -/
def Field.key : Field → Text
  | enumName => "enum_name"
  | protoPath => "proto_path"
  | swiftPath => "swift_path"
  | deprecatedMarker => "deprecated_marker"
  | acronyms => "acronyms"
  | anchors => "anchors"

/-- The value gives a field as it is in the settings: the anchors of some sections, and the other
fields as they are written. -/
def Gives (c : StatusSettings) (sections : Section → Bool) : Field → Value → Prop
  | .anchors, v => Anchor.IsPart c.anchors sections v
  | f, v => c.toValue.member? f.key = some v

/-- The value gives some fields of the settings. -/
def IsPart (c : StatusSettings) (given : Field → Bool) (sections : Section → Bool) (v : Value) :
    Prop := ∃ members, v = .object members ∧ GivesPart Field.key (c.Gives sections) given members

/-- The settings in the fields that are given, and the defaults in all others. -/
def overlay (c : StatusSettings) (given : Field → Bool) (sections : Section → Bool) :
    StatusSettings where
  enumName := if given .enumName then c.enumName else default.enumName
  protoPath := if given .protoPath then c.protoPath else default.protoPath
  swiftPath := if given .swiftPath then c.swiftPath else default.swiftPath
  deprecatedMarker :=
    if given .deprecatedMarker then c.deprecatedMarker else default.deprecatedMarker
  acronyms := if given .acronyms then c.acronyms else default.acronyms
  anchors :=
    if given .anchors then c.anchors.overlay Anchor.defaults sections else default.anchors

/-- Settings that are given in part overlay the defaults. -/
theorem ofValue?_part {c : StatusSettings} {given : Field → Bool} {sections : Section → Bool}
    (h : c.IsPart given sections v) : ofValue? v = some (c.overlay given sections) := by
  obtain ⟨members, rfl, hpart⟩ := h
  have htext := fun f (name : Text) (hname : Field.key f = name) (text default : Text)
      (hf : ∀ v, c.Gives sections f v → some (.text text) = some v) =>
    have hread : ∀ v, c.Gives sections f v → v.text? = some text := fun v hv => by
      rw [← Option.some.inj (hf v hv)]
      rfl
    hpart.field f name hname Value.text? default hread
  have henumName := htext .enumName "enum_name" rfl c.enumName default.enumName fun _ hv => hv
  have hprotoPath := htext .protoPath "proto_path" rfl c.protoPath default.protoPath fun _ hv => hv
  have hswiftPath := htext .swiftPath "swift_path" rfl c.swiftPath default.swiftPath fun _ hv => hv
  have hdeprecatedMarker := htext .deprecatedMarker "deprecated_marker" rfl c.deprecatedMarker
    default.deprecatedMarker fun _ hv => hv
  have hdictionary : ∀ v, c.Gives sections .acronyms v → v.dictionary? = some c.acronyms := by
    intro v hv
    have hwritten : some (Value.ofDictionary c.acronyms) = some v := hv
    rw [← Option.some.inj hwritten, Value.dictionary?_ofDictionary]
  have hacronyms := hpart.field .acronyms "acronyms" rfl Value.dictionary? default.acronyms
    hdictionary
  have hanchors := hpart.field .anchors "anchors" rfl Anchor.allOfValue? default.anchors
    fun v hv => Anchor.allOfValue?_part hv
  simp only [ofValue?, Fields.ofValue?, bind, Option.bind, henumName, hprotoPath, hswiftPath,
    hdeprecatedMarker, hacronyms, hanchors]
  rfl

/-- Settings that are written are given in all fields, also when the members have been sorted. -/
theorem isPart_sorted (c : StatusSettings) :
    c.IsPart (fun _ => true) (fun _ => true) c.toValue.sorted := by
  refine ⟨[("acronyms", (Value.ofDictionary c.acronyms).sorted),
    ("anchors", (Anchor.allToValue c.anchors).sorted),
    ("deprecated_marker", .text c.deprecatedMarker), ("enum_name", .text c.enumName),
    ("proto_path", .text c.protoPath), ("swift_path", .text c.swiftPath)], rfl, fun f _ => ?_,
    by simp⟩
  cases f with
  | acronyms =>
    rw [Value.sorted_ofDictionary]
    exact ⟨_, rfl, rfl⟩
  | anchors => exact ⟨_, rfl, Anchor.isPart_sorted c.anchors⟩
  | _ => exact ⟨_, rfl, rfl⟩

/-- Settings are read back from their value, whatever the order of its members. -/
theorem ofValue?_sorted (c : StatusSettings) : ofValue? c.toValue.sorted = some c :=
  ofValue?_part c.isPart_sorted

end StatusSettings

end ProtoUpkeep
