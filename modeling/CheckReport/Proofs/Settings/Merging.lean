/-
Settings from a document, one by one.

A document whose sections are tables, or missing, says of each setting by itself what it is: the value of its key if
that is there, else its default. It does not matter whether other keys of the section, or the section itself, are there,
nor what stands under keys that no setting has.

- `Field`: the settings, each with its section, its key and the values that its key can have.
- `ofDocument?_eq_some_iff`: the settings of a document are those that its keys say, one by one.
- `exists_merges_iff`: there are such settings exactly if every key that is there has a value of its kind.
- `agree_of_edits`: keys that no setting has can be put in, taken away and changed.
- `settings_merged`: what is loaded from a file with such a document.
-/
import CheckReport.Proofs.Settings.Loading

namespace CheckReport.Settings

open Toml (Members Value Origin)

/-! ## Values -/

/-- the elements of an array; a table among them is one that a header named -/
def elements? : Value → Option (List Value)
  | .array items => some items
  | .tables items => some (items.map (.table .header))
  | _ => none

theorem textOf?_eq_some_iff (value : Value) (s : String) : textOf? value = some s ↔ value = .text s := by
  cases value with
  | _ => simp [textOf?]

theorem countOf?_eq_some_iff (value : Value) (n : ℕ) : countOf? value = some n ↔ value = .integer n := by
  cases value with
  | integer m =>
    simp only [countOf?, Option.ite_none_right_eq_some, Option.some.injEq, Value.integer.injEq]
    omega
  | _ => simp [countOf?]

theorem mapM_textOf?_eq_some_iff (items : List Value) (ss : List String) :
    items.mapM textOf? = some ss ↔ items = ss.map .text := by
  induction items generalizing ss with
  | nil => simp [eq_comm]
  | cons item items ih =>
    simp only [List.mapM_cons, Option.bind_eq_bind, Option.bind_eq_some_iff, Option.pure_def, Option.some.injEq,
      textOf?_eq_some_iff, ih]
    constructor
    · rintro ⟨first, rfl, rest, rfl, rfl⟩
      rfl
    · intro h
      obtain ⟨first, rest, rfl, rfl, rfl⟩ := List.map_eq_cons_iff.1 h.symm
      exact ⟨first, rfl, rest, rfl, rfl⟩

theorem textsOf?_eq_some_iff (value : Value) (ss : List String) :
    textsOf? value = some ss ↔ elements? value = some (ss.map .text) := by
  have all (items : List Value) : items.mapM textOf? = some ss ↔ some items = some (ss.map Value.text) := by
    rw [mapM_textOf?_eq_some_iff, Option.some.injEq]
  cases value with
  | array items => exact all items
  | tables items => exact all _
  | _ => simp [textsOf?, elements?]

/-! ## Fields -/

/-- what can be set -/
inductive Field where
  | program
  | args
  | timeoutSecs
  | remoteHost
  | dir
  | orphanMaxAgeMins
  | level
  deriving DecidableEq, Repr

namespace Field

/-- what a field holds -/
def Held : Field → Type
  | program => String
  | args => List String
  | timeoutSecs => ℕ
  | remoteHost => Option String
  | dir => Option Path
  | orphanMaxAgeMins => ℕ
  | level => String

def get : (field : Field) → Settings → field.Held
  | program, settings => settings.collector.program
  | args, settings => settings.collector.args
  | timeoutSecs, settings => settings.collector.timeoutSecs
  | remoteHost, settings => settings.collector.remoteHost
  | dir, settings => settings.records.dir
  | orphanMaxAgeMins, settings => settings.records.orphanMaxAgeMins
  | level, settings => settings.log.level

/-- what is taken for a field whose key is missing in its section -/
def missing : (field : Field) → field.Held
  | program => defaultProgram
  | args => ([] : List String)
  | timeoutSecs => defaultTimeoutSecs
  | remoteHost => (none : Option String)
  | dir => (none : Option Path)
  | orphanMaxAgeMins => defaultOrphanMaxAgeMins
  | level => defaultLevel

/-- it is what the field holds if its section is missing, or all settings are -/
theorem missing_eq (field : Field) : field.missing = field.get defaults := by
  cases field with
  | _ => rfl

/-- the name of the section with the field -/
def home : Field → String
  | program => "collector"
  | args => "collector"
  | timeoutSecs => "collector"
  | remoteHost => "collector"
  | dir => "records"
  | orphanMaxAgeMins => "records"
  | level => "log"

def key : Field → String
  | program => "program"
  | args => "args"
  | timeoutSecs => "timeout_secs"
  | remoteHost => "remote_host"
  | dir => "dir"
  | orphanMaxAgeMins => "orphan_max_age_mins"
  | level => "level"

/-- a value of the kind and in the range of a field, with what it says -/
def Means : (field : Field) → Value → field.Held → Prop
  | program, value, s => value = .text s
  | args, value, ss => elements? value = some (List.map Value.text ss)
  | timeoutSecs, value, n => value = .integer (Int.ofNat n)
  | remoteHost, value, host => ∃ s, value = .text s ∧ host = some s
  | dir, value, place => ∃ s, value = .text s ∧ place = some (Path.ofString s)
  | orphanMaxAgeMins, value, n => value = .integer (Int.ofNat n)
  | level, value, s => value = .text s

def read? : (field : Field) → Value → Option field.Held
  | program => textOf?
  | args => textsOf?
  | timeoutSecs => countOf?
  | remoteHost => fun value => (textOf? value).map some
  | dir => fun value => (textOf? value).map fun s => some (Path.ofString s)
  | orphanMaxAgeMins => countOf?
  | level => textOf?

theorem read?_eq_some_iff (field : Field) (value : Value) (held : field.Held) :
    field.read? value = some held ↔ field.Means value held := by
  have optional {α : Type} (f : String → α) (a : α) :
      (textOf? value).map f = some a ↔ ∃ s, value = .text s ∧ a = f s := by
    simp only [Option.map_eq_some_iff, textOf?_eq_some_iff, @eq_comm _ a]
  cases field with
  | program => exact textOf?_eq_some_iff value held
  | args => exact textsOf?_eq_some_iff value held
  | timeoutSecs => exact countOf?_eq_some_iff value held
  | remoteHost => exact optional some held
  | dir => exact optional (fun s => some (Path.ofString s)) held
  | orphanMaxAgeMins => exact countOf?_eq_some_iff value held
  | level => exact textOf?_eq_some_iff value held

end Field

/-! ## What a document says of a field -/

variable {document : Members} {settings : Settings}

/-- the members of a section; none if it is no table -/
def membersOf (document : Members) (name : String) : Members :=
  match document.lookup name with
  | some (.table _ members) => members
  | _ => []

/-- the value of the field's key -/
def given? (document : Members) (field : Field) : Option Value := (membersOf document field.home).lookup field.key

/-- what a field holds by the document: what its key says, its default if the key is missing -/
def Says (document : Members) (field : Field) (held : field.Held) : Prop :=
  match given? document field with
  | none => held = field.get defaults
  | some value => field.Means value held

/-- every field is as the document says -/
def Merges (document : Members) (settings : Settings) : Prop :=
  ∀ field : Field, Says document field (field.get settings)

/-- every key that is there has a value of its kind -/
def WellTyped (document : Members) : Prop :=
  ∀ field value, given? document field = some value → ∃ held, field.Means value held

/-- what a document says of a field, as it is read -/
def take? (document : Members) (field : Field) : Option field.Held :=
  field? (membersOf document field.home) field.key field.read? field.missing

theorem take?_eq_some_iff (document : Members) (field : Field) (held : field.Held) :
    take? document field = some held ↔ Says document field held := by
  unfold take? field? Says given?
  cases (membersOf document field.home).lookup field.key with
  | none => simp only [field.missing_eq, Option.some.injEq, eq_comm]
  | some value => exact field.read?_eq_some_iff value held

theorem exists_says_iff (document : Members) (field : Field) :
    (∃ held, Says document field held) ↔
      ∀ value, given? document field = some value → ∃ held, field.Means value held := by
  unfold Says
  cases given? document field with
  | none => simp
  | some value => simp

/-- settings may be put together from what is said of the fields one by one -/
theorem exists_merges_iff (document : Members) : (∃ settings, Merges document settings) ↔ WellTyped document := by
  have fields : WellTyped document ↔ ∀ field, ∃ held, Says document field held :=
    forall_congr' fun field => (exists_says_iff document field).symm
  rw [fields]
  constructor
  · rintro ⟨settings, merges⟩ field
    exact ⟨_, merges field⟩
  · intro said
    choose held told using said
    refine ⟨⟨⟨held .program, held .args, held .timeoutSecs, held .remoteHost⟩, ⟨held .dir, held .orphanMaxAgeMins⟩,
      ⟨held .level⟩⟩, fun field => ?_⟩
    cases field with
    | _ => exact told _

/-! ## Sections -/

def sections : List String := ["collector", "records", "log"]

def isTable : Value → Bool
  | .table _ _ => true
  | _ => false

/-- every section is a table or missing -/
def Sectioned (document : Members) : Prop := ∀ name ∈ sections, (document.lookup name).all isTable = true

instance (document : Members) : Decidable (Sectioned document) := inferInstanceAs (Decidable (∀ _ ∈ _, _))

/-- a section that is missing is read as one without members -/
theorem field?_section {α : Type} {name : String} {keys : List String} {ofMembers? : Members → Option α} {missing : α}
    (table : (document.lookup name).all isTable = true) (empty : ofMembers? [] = some missing) :
    field? document name (section? keys ofMembers?) missing = ofMembers? (membersOf document name) := by
  unfold field? membersOf
  cases found : document.lookup name with
  | none => exact empty.symm
  | some value =>
    rw [found] at table
    cases value with
    | table origin members => rfl
    | _ => cases table

/-- the settings of a document are those of its sections -/
theorem ofDocument?_sections (sectioned : Sectioned document) : ofDocument? document = some settings ↔
    Collector.ofMembers? (membersOf document "collector") = some settings.collector ∧
      Records.ofMembers? (membersOf document "records") = some settings.records ∧
      Logging.ofMembers? (membersOf document "log") = some settings.log := by
  have collector : field? document "collector" (section? Collector.keys Collector.ofMembers?) .defaults =
      Collector.ofMembers? (membersOf document "collector") :=
    field?_section (sectioned _ (by decide)) Collector.ofMembers?_nil
  have records : field? document "records" (section? Records.keys Records.ofMembers?) .defaults =
      Records.ofMembers? (membersOf document "records") :=
    field?_section (sectioned _ (by decide)) Records.ofMembers?_nil
  have log : field? document "log" (section? Logging.keys Logging.ofMembers?) .defaults =
      Logging.ofMembers? (membersOf document "log") :=
    field?_section (sectioned _ (by decide)) Logging.ofMembers?_nil
  rw [ofDocument?, collector, records, log]
  constructor
  · intro h
    split at h
    · cases h
      exact ⟨by assumption, by assumption, by assumption⟩
    · cases h
  · rintro ⟨collector, records, log⟩
    rw [collector, records, log]

theorem Collector.ofMembers?_eq_some_iff (members : Members) (collector : Collector) :
    Collector.ofMembers? members = some collector ↔
      field? members "program" textOf? defaultProgram = some collector.program ∧
        field? members "args" textsOf? [] = some collector.args ∧
        field? members "timeout_secs" countOf? defaultTimeoutSecs = some collector.timeoutSecs ∧
        field? members "remote_host" (fun value => (textOf? value).map some) none = some collector.remoteHost := by
  unfold Collector.ofMembers?
  constructor
  · intro h
    split at h
    · cases h
      exact ⟨by assumption, by assumption, by assumption, by assumption⟩
    · cases h
  · rintro ⟨program, args, timeoutSecs, remoteHost⟩
    rw [program, args, timeoutSecs, remoteHost]

theorem Records.ofMembers?_eq_some_iff (members : Members) (records : Records) :
    Records.ofMembers? members = some records ↔
      field? members "dir" (fun value => (textOf? value).map fun s => some (Path.ofString s)) none =
          some records.dir ∧
        field? members "orphan_max_age_mins" countOf? defaultOrphanMaxAgeMins = some records.orphanMaxAgeMins := by
  unfold Records.ofMembers?
  constructor
  · intro h
    split at h
    · cases h
      exact ⟨by assumption, by assumption⟩
    · cases h
  · rintro ⟨dir, orphanMaxAgeMins⟩
    rw [dir, orphanMaxAgeMins]

theorem Logging.ofMembers?_eq_some_iff (members : Members) (log : Logging) :
    Logging.ofMembers? members = some log ↔ field? members "level" textOf? defaultLevel = some log.level := by
  unfold Logging.ofMembers?
  rw [Option.map_eq_some_iff]
  constructor
  · rintro ⟨level, taken, rfl⟩
    exact taken
  · intro taken
    exact ⟨log.level, taken, rfl⟩

/-- **The settings of a document are those that its keys say, one by one.** -/
theorem ofDocument?_eq_some_iff (sectioned : Sectioned document) :
    ofDocument? document = some settings ↔ Merges document settings := by
  have all : Merges document settings ↔ ∀ field : Field, take? document field = some (field.get settings) :=
    forall_congr' fun field => (take?_eq_some_iff document field _).symm
  rw [ofDocument?_sections sectioned, all, Collector.ofMembers?_eq_some_iff, Records.ofMembers?_eq_some_iff,
    Logging.ofMembers?_eq_some_iff]
  constructor
  · rintro ⟨⟨program, args, timeoutSecs, remoteHost⟩, ⟨dir, orphanMaxAgeMins⟩, level⟩ field
    cases field with
    | _ => assumption
  · intro taken
    exact ⟨⟨taken .program, taken .args, taken .timeoutSecs, taken .remoteHost⟩,
      ⟨taken .dir, taken .orphanMaxAgeMins⟩, taken .level⟩

/-! ## Keys that no setting has -/

/-- a key that no setting has is put in, at the top or in a table; or a table is, for such keys to come -/
inductive Edit : Members → Members → Prop where
  | top (front back : Members) (key : String) (value : Value) (unknown : key ∉ sections) :
      Edit (front ++ back) (front ++ (key, value) :: back)
  | inner (front back first last : Members) (name : String) (origin : Origin) (key : String) (value : Value)
      (unknown : ∀ field : Field, field.home = name → field.key ≠ key) :
      Edit (front ++ (name, .table origin (first ++ last)) :: back)
        (front ++ (name, .table origin (first ++ (key, value) :: last)) :: back)
  | header (front back : Members) (name : String) (origin : Origin) (missing : (front ++ back).lookup name = none) :
      Edit (front ++ back) (front ++ (name, .table origin []) :: back)

/-- keys that no setting has are put in, taken away and changed -/
def Edits : Members → Members → Prop := Relation.EqvGen Edit

/-- the documents say the same of every field -/
structure Agree (one other : Members) : Prop where
  sectioned : Sectioned one ↔ Sectioned other
  given : ∀ field, given? one field = given? other field

variable {one other : Members}

theorem Field.home_mem (field : Field) : field.home ∈ sections := by
  cases field with
  | _ => decide

theorem agree_of_lookup (tables : ∀ name ∈ sections, (one.lookup name).all isTable = (other.lookup name).all isTable)
    (members : ∀ field : Field,
      (membersOf one field.home).lookup field.key = (membersOf other field.home).lookup field.key) :
    Agree one other where
  sectioned := forall₂_congr fun name mem => by rw [tables name mem]
  given := members

theorem lookup_insert_of_ne {key name : String} (h : name ≠ key) (front back : Members) (value : Value) :
    (front ++ (key, value) :: back).lookup name = (front ++ back).lookup name := by
  rw [List.lookup_append, List.lookup_append, List.lookup_cons, beq_false_of_ne h]

theorem lookup_insert_self (key : String) (front back : Members) (value : Value) :
    (front ++ (key, value) :: back).lookup key = (front.lookup key).or (some value) := by
  rw [List.lookup_append, List.lookup_cons_self]

theorem Edit.agree (edit : Edit one other) : Agree one other := by
  cases edit with
  | top front back key value unknown =>
    have same (name : String) (mem : name ∈ sections) :
        (front ++ (key, value) :: back).lookup name = (front ++ back).lookup name := by
      refine lookup_insert_of_ne ?_ front back value
      rintro rfl
      exact unknown mem
    refine agree_of_lookup (fun name mem => by rw [same name mem]) fun field => ?_
    rw [membersOf, membersOf, same _ field.home_mem]
  | inner front back first last name origin key value unknown =>
    refine agree_of_lookup (fun place _ => ?_) fun field => ?_
    · by_cases own : place = name
      · rw [own, lookup_insert_self, lookup_insert_self]
        cases front.lookup name with
        | none => rfl
        | some value => rfl
      · rw [lookup_insert_of_ne own, lookup_insert_of_ne own]
    · by_cases own : field.home = name
      · rw [membersOf, membersOf, own, lookup_insert_self, lookup_insert_self]
        cases front.lookup name with
        | none => exact (lookup_insert_of_ne (unknown field own) first last value).symm
        | some value => rfl
      · rw [membersOf, membersOf, lookup_insert_of_ne own, lookup_insert_of_ne own]
  | header front back name origin missing =>
    have absent : front.lookup name = none := by
      rw [List.lookup_append, Option.or_eq_none_iff] at missing
      exact missing.1
    refine agree_of_lookup (fun place _ => ?_) fun field => ?_
    · by_cases own : place = name
      · rw [own, missing, lookup_insert_self, absent]
        rfl
      · rw [lookup_insert_of_ne own]
    · by_cases own : field.home = name
      · rw [membersOf, membersOf, own, missing, lookup_insert_self, absent]
        rfl
      · rw [membersOf, membersOf, lookup_insert_of_ne own]

/-- **Keys that no setting has say nothing**, however many of them are put in, taken away and changed. -/
theorem agree_of_edits (edits : Edits one other) : Agree one other := by
  induction edits with
  | rel one other edit => exact edit.agree
  | refl one => exact ⟨Iff.rfl, fun _ => rfl⟩
  | symm one other _ ih => exact ⟨ih.sectioned.symm, fun field => (ih.given field).symm⟩
  | trans one two three _ _ ih ih' =>
    exact ⟨ih.sectioned.trans ih'.sectioned, fun field => (ih.given field).trans (ih'.given field)⟩

theorem Agree.ofDocument?_eq (agree : Agree one other) (sectioned : Sectioned one) :
    ofDocument? one = ofDocument? other := by
  have merges (settings : Settings) : Merges one settings ↔ Merges other settings :=
    forall_congr' fun field => by rw [Says, Says, agree.given field]
  refine Option.ext fun settings => ?_
  rw [ofDocument?_eq_some_iff sectioned, ofDocument?_eq_some_iff (agree.sectioned.1 sectioned), merges]

/-! ## Main result -/

variable {path : Path} {disk : Disk} {text : String}

theorem load_of_document (read : disk.readText path = .ok text) (parsed : Toml.document? text = some document) :
    load path disk = match ofDocument? document with
      | none => .error (.malformed path)
      | some settings => if settings.collector.timeoutSecs = 0 then .error (.zeroTimeoutIn path) else .ok settings := by
  have same : ofText? text = ofDocument? document := by rw [ofText?, parsed]
  have loaded := load_of_readText read
  rw [same] at loaded
  exact loaded

/-- only a zero that is written makes the time zero -/
theorem Merges.timeoutSecs_eq_zero_iff (merges : Merges document settings) :
    settings.collector.timeoutSecs = 0 ↔ given? document .timeoutSecs = some (.integer 0) := by
  have told := merges .timeoutSecs
  unfold Says at told
  cases written : given? document .timeoutSecs with
  | none =>
    rw [written] at told
    have usual : settings.collector.timeoutSecs = 60 := told
    simp [usual]
  | some value =>
    rw [written] at told
    obtain rfl : value = .integer (Int.ofNat settings.collector.timeoutSecs) := told
    simp

/-- what comes of a file with a document -/
structure Decoded (path : Path) (document : Members) (result : Except Fault Settings) : Prop where
  /-- the settings are those that the document says, one by one -/
  ok_iff : ∀ settings, result = .ok settings ↔ Merges document settings ∧ settings.collector.timeoutSecs ≠ 0
  /-- there are settings exactly if every key that is there has a value of its kind and the time is not zero -/
  succeeds_iff : (∃ settings, result = .ok settings) ↔
    WellTyped document ∧ given? document .timeoutSecs ≠ some (.integer 0)
  malformed_iff : result = .error (.malformed path) ↔ ¬ WellTyped document
  zero_iff : result = .error (.zeroTimeoutIn path) ↔
    WellTyped document ∧ given? document .timeoutSecs = some (.integer 0)

theorem decoded_of_document (read : disk.readText path = .ok text) (parsed : Toml.document? text = some document)
    (sectioned : Sectioned document) : Decoded path document (load path disk) := by
  have typed := exists_merges_iff document
  have merged (settings : Settings) : ofDocument? document = some settings ↔ Merges document settings :=
    ofDocument?_eq_some_iff sectioned
  rw [load_of_document read parsed]
  cases taken : ofDocument? document with
  | none =>
    have never (settings : Settings) : ¬ Merges document settings := by
      rw [← merged, taken]
      simp
    have untyped : ¬ WellTyped document := fun h => by
      obtain ⟨settings, merges⟩ := typed.2 h
      exact never settings merges
    exact ⟨by simp [never], by simp [untyped], by simp [untyped], by simp [untyped]⟩
  | some found =>
    have merges : Merges document found := (merged found).1 taken
    have only (settings : Settings) : Merges document settings ↔ found = settings := by
      rw [← merged, taken, Option.some.injEq]
    have welltyped : WellTyped document := typed.1 ⟨found, merges⟩
    have zero := merges.timeoutSecs_eq_zero_iff
    simp only
    split_ifs with none_left
    · have written := zero.1 none_left
      refine ⟨fun settings => ?_, by simp [written], by simp [welltyped], by simp [welltyped, written]⟩
      rw [only]
      simp only [reduceCtorEq, false_iff, not_and, not_not]
      rintro rfl
      exact none_left
    · have written : given? document .timeoutSecs ≠ some (.integer 0) := fun h => none_left (zero.2 h)
      refine ⟨fun settings => ?_, by simp [welltyped, written], by simp [welltyped], by simp [written]⟩
      rw [only, Except.ok.injEq]
      constructor
      · rintro rfl
        exact ⟨rfl, none_left⟩
      · exact And.left

/-- **Settings are merged with the defaults field by field.** For every file that holds a document whose sections are
tables or missing: each setting is what its key says, or its default; the file is refused exactly if a key has a value of
another kind or the time is zero; and keys that no setting has change nothing. -/
theorem settings_merged (path : Path) (disk : Disk) (text : String) (document : Members)
    (read : disk.readText path = .ok text) (parsed : Toml.document? text = some document)
    (sectioned : Sectioned document) :
    Decoded path document (load path disk) ∧
      ∀ disk' text' document', disk'.readText path = .ok text' → Toml.document? text' = some document' →
        Edits document document' → load path disk' = load path disk := by
  refine ⟨decoded_of_document read parsed sectioned, ?_⟩
  intro disk' text' document' read' parsed' edits
  rw [load_of_document read parsed, load_of_document read' parsed', (agree_of_edits edits).ofDocument?_eq sectioned]

/-- a disk with one file `c` -/
def diskHolding (text : String) : Disk :=
  bareDisk.put [Text.Utf8.encode "c"] (fileHolding (Text.Utf8.encode text))

def plainText : String := "[collector]\nargs = ['-v']\n"

def plainDocument : Members := [("collector", .table .header [("args", .array [.text "-v"])])]

/-- the plain text with a key and a table that no setting has -/
def oddText : String := plainText ++ "odd = 1\n[extra]\n"

def oddDocument : Members :=
  [("collector", .table .header [("args", .array [.text "-v"]), ("odd", .integer 1)]), ("extra", .table .header [])]

/-- one key makes one setting differ from its default, and keys that are not known none -/
theorem settings_merged_odd :
    load (.ofString "c") (diskHolding plainText) =
        .ok { defaults with collector := { defaults.collector with args := ["-v"] } } ∧
      load (.ofString "c") (diskHolding oddText) = load (.ofString "c") (diskHolding plainText) := by
  obtain ⟨decoded, same⟩ := settings_merged (.ofString "c") (diskHolding plainText) plainText plainDocument
    (by decide +kernel) (by decide +kernel) (by decide)
  refine ⟨(decoded.ok_iff _).2 ⟨?merges, by decide⟩,
    same _ oddText oddDocument (by decide +kernel) (by decide +kernel) ?edits⟩
  case merges =>
    intro field
    cases field with
    | _ => rfl
  case edits =>
    have inner : Edit plainDocument
        [("collector", .table .header [("args", .array [.text "-v"]), ("odd", .integer 1)])] :=
      .inner [] [] [("args", .array [.text "-v"])] [] "collector" .header "odd" (.integer 1) fun field _ => by
        cases field with
        | _ => decide
    have top : Edit [("collector", .table .header [("args", .array [.text "-v"]), ("odd", .integer 1)])] oddDocument :=
      .top [_] [] "extra" (.table .header []) (by decide)
    exact .trans _ _ _ (.rel _ _ inner) (.rel _ _ top)

end CheckReport.Settings
