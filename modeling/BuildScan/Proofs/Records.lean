import BuildScan.Exchange
import BuildScan.Proofs.Json.RoundTrip

/-!
# Records are read from every text that describes them

A record is decoded from an object that has its fields in some order and texts under other names
(`Describes`).  What an object gives for the names of a record is then the fields that it has, and
nothing for the others (`Describes.fields?`); each record adds what it makes of a field that is
absent.

`json_round_trips` is the law for the configuration, positions, directives and units: the text of a
value is decoded as this value, and so is what is written for any decoded value.
-/

namespace BuildScan

open BuildScan.Text BuildScan.Json BuildScan.Json.Value

variable {α β : Type}

/-! ### Texts of a value -/

/-- The texts of a value, written in any layout or given otherwise, decode to this. -/
structure DecodesTo (decode : Value → Option α) (v : Value) (a : α) : Prop where
  text : ∀ s, read? s = some v → ofJsonText decode s = .ok a
  written : ∀ l : Layout, l.IsBlank → read? (v.render l) = some v

theorem ofJsonText_eq_ok_iff {decode : Value → Option α} {s : String} {a : α} :
    ofJsonText decode s = .ok a ↔ ∃ v, read? s = some v ∧ decode v = some a := by
  rw [ofJsonText, ← Option.bind_eq_some_iff]
  cases (read? s).bind decode with
  | some b => simp
  | none => simp

theorem decodesTo_of_writable {decode : Value → Option α} {v : Value} {a : α} (hv : v.Writable)
    (h : decode v = some a) : DecodesTo decode v a :=
  ⟨fun _ hRead => ofJsonText_eq_ok_iff.mpr ⟨v, hRead, h⟩, fun _ hl => read?_render hl hv⟩

/-- Values are decoded as they are encoded, and decoding any text gives a value of this kind. -/
structure RoundTrips (encode : α → Value) (decode : Value → Option α) (Fits : α → Prop) :
    Prop where
  encoded : ∀ a, Fits a → DecodesTo decode (encode a) a
  decoded : ∀ s a, ofJsonText decode s = .ok a → DecodesTo decode (encode a) a

theorem roundTrips_of {encode : α → Value} {decode : Value → Option α} {Fits : α → Prop}
    (hEncoded : ∀ a, Fits a → DecodesTo decode (encode a) a)
    (hFits : ∀ v a, decode v = some a → Fits a) : RoundTrips encode decode Fits := by
  refine ⟨hEncoded, fun s a h => ?_⟩
  obtain ⟨v, -, hDecode⟩ := ofJsonText_eq_ok_iff.mp h
  exact hEncoded a (hFits v a hDecode)

/-! ### Values that are no records -/

theorem mapM_eq_some_map {f : α → Option β} {g : α → β} {xs : List α}
    (h : ∀ x ∈ xs, f x = some (g x)) : xs.mapM f = some (xs.map g) := by
  induction xs with
  | nil => rfl
  | cons x xs ih =>
    obtain ⟨hFirst, hRest⟩ := List.forall_mem_cons.mp h
    rw [List.mapM_cons, hFirst, ih hRest]
    rfl

@[simp] theorem string?_ofString (s : String) : string? (ofString s) = some s := rfl

@[simp] theorem optional?_ofOption (o : Option String) : optional? (ofOption o) = some o := by
  cases o <;> rfl

@[simp] theorem strings?_ofStrings (xs : List String) : strings? (ofStrings xs) = some xs := by
  have hRead : xs.mapM (string? ∘ ofString) = some (xs.map id) :=
    mapM_eq_some_map fun s _ => string?_ofString s
  rw [ofStrings, strings?, List.mapM_map, hRead, List.map_id]

theorem word?_natural {n : Nat} (h : n < 0x10000000000000000) : word? (natural n) = some n :=
  if_pos h

theorem lt_of_word? {v : Value} {n : Nat} (h : word? v = some n) : n < 0x10000000000000000 := by
  cases v with
  | natural m =>
    obtain ⟨hBound, hSame⟩ := Option.ite_none_right_eq_some.mp h
    rwa [← Option.some.inj hSame]
  | _ => cases h

theorem writable_ofString (s : String) : (ofString s).Writable := .text s

theorem writable_ofOption (o : Option String) : (ofOption o).Writable := by
  cases o with
  | none => exact .null
  | some s => exact .text s

theorem writable_ofStrings (xs : List String) : (ofStrings xs).Writable := by
  refine .array fun v hv => ?_
  obtain ⟨s, -, rfl⟩ := List.mem_map.mp hv
  exact writable_ofString s

theorem writable_ofMembers {ms : List (String × Value)} (h : ∀ m ∈ ms, m.2.Writable) :
    (ofMembers ms).Writable := by
  refine .object (fun m hm => ?_) fun m hm => ?_
  · obtain ⟨k, -, rfl⟩ := List.mem_map.mp hm
    rfl
  · obtain ⟨k, hk, rfl⟩ := List.mem_map.mp hm
    exact h k hk

/-! ### Objects that describe a record -/

/-- The members are these fields of a record in some order, and texts under names that it does not
have. -/
structure Describes (names : List String) (fields ms : List (String × Value)) : Prop where
  known : (ms.filter fun m => names.contains m.1).Perm fields
  unknown : ∀ m ∈ ms, m.1 ∉ names → ∃ s, m.2 = ofString s

theorem describes_self {names : List String} {fields : List (String × Value)}
    (h : fields.map Prod.fst = names) : Describes names fields fields := by
  have hName : ∀ m ∈ fields, m.1 ∈ names := fun m hm => h ▸ List.mem_map_of_mem hm
  refine ⟨.of_eq (List.filter_eq_self.mpr fun m hm => ?_), fun m hm hUnknown => ?_⟩
  · exact List.contains_iff_mem.mpr (hName m hm)
  · exact absurd (hName m hm) hUnknown

theorem filter_key_eq_lookup {fields : List (String × Value)} (h : (fields.map Prod.fst).Nodup)
    (key : String) :
    (fields.filter fun m => m.1 == key).map Prod.snd = (fields.lookup key).toList := by
  induction fields with
  | nil => rfl
  | cons m fields ih =>
    obtain ⟨k, v⟩ := m
    obtain ⟨hFresh, hRest⟩ := List.nodup_cons.mp h
    by_cases hKey : k = key
    · subst hKey
      have hNone : fields.filter (fun m => m.1 == k) = [] := by
        rw [List.filter_eq_nil_iff]
        intro m hm hSame
        exact hFresh (List.mem_map.mpr ⟨m, hm, beq_iff_eq.mp hSame⟩)
      rw [List.filter_cons_of_pos (by simp), hNone, List.lookup_cons_self]
      rfl
    · rw [List.filter_cons_of_neg (by simpa using hKey), ih hRest, List.lookup_cons,
        beq_false_of_ne (Ne.symm hKey)]

theorem nodup_keys_filter {fields : List (String × Value)} (h : (fields.map Prod.fst).Nodup)
    (p : String × Value → Bool) : ((fields.filter p).map Prod.fst).Nodup :=
  h.sublist (List.filter_sublist.map _)

theorem lookup_filter (kept : String → Bool) (fields : List (String × Value)) (key : String) :
    (fields.filter fun m => kept m.1).lookup key =
      if kept key then fields.lookup key else none := by
  induction fields with
  | nil => simp
  | cons m fields ih =>
    obtain ⟨k, v⟩ := m
    by_cases hKept : kept k = true
    · rw [List.filter_cons, if_pos hKept, List.lookup_cons, List.lookup_cons, ih]
      by_cases hKey : key = k
      · rw [hKey, beq_self_eq_true, if_pos hKept, if_pos hKept]
      · rw [beq_false_of_ne hKey]
    · rw [List.filter_cons, if_neg hKept, ih, List.lookup_cons]
      by_cases hKey : key = k
      · rw [hKey, if_neg hKept, if_neg hKept]
      · rw [beq_false_of_ne hKey]

namespace Describes

variable {names : List String} {fields ms : List (String × Value)}

theorem valueOf? (h : Describes names fields ms) (hKeys : (fields.map Prod.fst).Nodup)
    {key : String} (hKey : key ∈ names) :
    Value.valueOf? (ms.map fun m => (some m.1, m.2)) key = some (fields.lookup key) := by
  -- under a name of the record there are only its fields
  have hKnown : ms.filter (fun m => m.1 == key) =
      (ms.filter fun m => names.contains m.1).filter fun m => m.1 == key := by
    rw [List.filter_filter]
    refine List.filter_congr fun m _ => ?_
    by_cases hSame : m.1 = key
    · simp [hSame, hKey]
    · simp [hSame]
  have hValues : valuesOf (ms.map fun m => (some m.1, m.2)) key =
      (ms.filter fun m => m.1 == key).map Prod.snd := by
    rw [valuesOf, List.filter_map, List.map_map]
    rfl
  have hPerm :
      (valuesOf (ms.map fun m => (some m.1, m.2)) key).Perm (fields.lookup key).toList := by
    rw [hValues, hKnown, ← filter_key_eq_lookup hKeys]
    exact (h.known.filter _).map _
  rw [Value.valueOf?]
  cases hLookup : fields.lookup key with
  | none =>
    rw [hLookup, Option.toList_none, List.perm_nil] at hPerm
    rw [hPerm]
  | some v =>
    rw [hLookup, Option.toList_some, List.perm_singleton] at hPerm
    rw [hPerm]

/-- The object gives the fields that it describes, in the order of the names. -/
theorem fields? (h : Describes names fields ms) (hKeys : (fields.map Prod.fst).Nodup) :
    (ofMembers ms).fields? names = some (names.map fun key => fields.lookup key) := by
  rw [ofMembers, Value.fields?, if_pos, mapM_eq_some_map fun key hKey => h.valueOf? hKeys hKey]
  rw [List.all_map, List.all_eq_true]
  exact fun _ _ => rfl

theorem writable (h : Describes names fields ms) (hFields : ∀ m ∈ fields, m.2.Writable) :
    (ofMembers ms).Writable := by
  refine writable_ofMembers fun m hm => ?_
  by_cases hName : m.1 ∈ names
  · exact hFields m (h.known.subset (List.mem_filter.mpr ⟨hm, List.contains_iff_mem.mpr hName⟩))
  · obtain ⟨s, hs⟩ := h.unknown m hm hName
    rw [hs]
    exact writable_ofString s

end Describes

/-! ### Fields that are absent -/

/-- No member has this key. -/
def Lacks (key : String) (ms : List (Option String × Value)) : Prop := ∀ m ∈ ms, m.1 ≠ some key

theorem valueOf?_of_lacks {key : String} {ms : List (Option String × Value)} (h : Lacks key ms) :
    valueOf? ms key = some none := by
  have hNone : ms.filter (fun m => m.1 == some key) = [] :=
    List.filter_eq_nil_iff.mpr fun m hm hSame => h m hm (beq_iff_eq.mp hSame)
  rw [valueOf?, valuesOf, hNone]
  rfl

theorem absent_of_lacks {key : String} {ms : List (Option String × Value)} (h : Lacks key ms)
    {names : List String} {values : List (Option Value)} (hKey : key ∈ names)
    (hFields : (object ms).fields? names = some values) : (key, none) ∈ names.zip values := by
  rw [Value.fields?, Option.ite_none_right_eq_some] at hFields
  replace hFields := hFields.2
  induction names generalizing values with
  | nil => cases hKey
  | cons name names ih =>
    rw [List.mapM_cons] at hFields
    obtain ⟨value, hValue, hFields⟩ := Option.bind_eq_some_iff.mp hFields
    obtain ⟨others, hOthers, hFields⟩ := Option.bind_eq_some_iff.mp hFields
    cases hFields
    rcases List.mem_cons.mp hKey with rfl | hKey
    · rw [valueOf?_of_lacks h] at hValue
      cases hValue
      exact List.mem_cons_self
    · exact List.mem_cons_of_mem _ (ih hKey hOthers)

/-- Every text of an object without this key is refused. -/
def Requires (decode : Value → Option α) (key : String) : Prop :=
  ∀ s ms, read? s = some (.object ms) → Lacks key ms →
    ∃ reason, ofJsonText decode s = .error (.json reason)

/-- Where a value is decoded only if a field is there, the field is required. -/
theorem requires_of {decode : Value → Option α} {names : List String} {key : String}
    (hKey : key ∈ names)
    (h : ∀ v a, decode v = some a → ∃ values, v.fields? names = some values ∧
      (key, none) ∉ names.zip values) : Requires decode key := by
  intro s ms hRead hLacks
  rw [ofJsonText, hRead, Option.bind_some]
  cases hDecode : decode (.object ms) with
  | none => exact ⟨_, rfl⟩
  | some a =>
    obtain ⟨values, hFields, hPresent⟩ := h _ _ hDecode
    exact absurd (absent_of_lacks hLacks hKey hFields) hPresent

/-! ### Configurations -/

namespace Config

def fieldNames : List String := ["goos", "goarch", "gobin", "tags"]

/-- The fields of a configuration. -/
def members (c : Config) : List (String × Value) :=
  [("goos", .ofString c.goos), ("goarch", .ofString c.goarch), ("gobin", .ofOption c.gobin),
    ("tags", .ofStrings c.tags)]

/-- The configuration with these fields, and those of the host for the others. -/
def restrict (c : Config) (kept : String → Bool) : Config where
  goos := if kept "goos" then c.goos else host.goos
  goarch := if kept "goarch" then c.goarch else host.goarch
  gobin := if kept "gobin" then c.gobin else host.gobin
  tags := if kept "tags" then c.tags else host.tags

theorem writable_members (c : Config) : ∀ m ∈ c.members, m.2.Writable := by
  simp only [members, List.forall_mem_cons]
  exact ⟨writable_ofString _, writable_ofString _, writable_ofOption _, writable_ofStrings _,
    List.forall_mem_nil _⟩

theorem orElse_kept {read : Value → Option α} {v : Value} {a : α} (h : read v = some a)
    (default : α) (b : Bool) :
    orElse read default (if b then some v else none) = some (if b then a else default) := by
  cases b with
  | true => exact h
  | false => rfl

/-- The fields that are there are read, and each of the others is that of the host. -/
theorem decodesTo_restrict (c : Config) (kept : String → Bool) {ms : List (String × Value)}
    (h : Describes fieldNames (c.members.filter fun m => kept m.1) ms) :
    DecodesTo ofJson? (.ofMembers ms) (c.restrict kept) := by
  have hAll : (c.members.map Prod.fst).Nodup := (by decide : fieldNames.Nodup)
  have hKeys := nodup_keys_filter hAll fun m => kept m.1
  have hFields : (ofMembers ms).fields? fieldNames = some
      [if kept "goos" then some (ofString c.goos) else none,
        if kept "goarch" then some (ofString c.goarch) else none,
        if kept "gobin" then some (ofOption c.gobin) else none,
        if kept "tags" then some (ofStrings c.tags) else none] := by
    rw [h.fields? hKeys]
    simp only [lookup_filter]
    rfl
  refine decodesTo_of_writable
    (h.writable fun m hm => c.writable_members m (List.mem_filter.mp hm).1) ?_
  rw [ofJson?, ← fieldNames, hFields]
  simp only [Option.bind_eq_bind, Option.bind_some, orElse_kept (string?_ofString _),
    orElse_kept (optional?_ofOption _), orElse_kept (strings?_ofStrings _)]
  rfl

theorem roundTrips : RoundTrips toJson ofJson? fun _ => True := by
  refine roundTrips_of (fun c _ => ?_) fun _ _ _ => trivial
  have hAll : c.members.filter (fun _ => true) = c.members := List.filter_true _
  have hSelf : Describes fieldNames c.members c.members := describes_self rfl
  exact c.decodesTo_restrict (fun _ => true) (hAll ▸ hSelf)

end Config

/-! ### Places -/

namespace Text.Position

def fieldNames : List String := ["line", "column"]

/-- The fields of a place. -/
def members (p : Position) : List (String × Value) :=
  [("line", .natural p.line), ("column", .natural p.column)]

/-- The numbers have 64 bits. -/
def Fits (p : Position) : Prop := p.line < 0x10000000000000000 ∧ p.column < 0x10000000000000000

theorem writable_members (p : Position) : ∀ m ∈ p.members, m.2.Writable := by
  simp only [members, List.forall_mem_cons]
  exact ⟨.natural _, .natural _, List.forall_mem_nil _⟩

theorem ofJson?_eq_some_iff {v : Value} {p : Position} :
    ofJson? v = some p ↔ ∃ line column, v.fields? fieldNames = some [some line, some column] ∧
      line.word? = some p.line ∧ column.word? = some p.column := by
  constructor
  · intro h
    obtain ⟨values, hFields, h⟩ := Option.bind_eq_some_iff.mp h
    split at h
    · rename_i line column
      obtain ⟨l, hLine, h⟩ := Option.bind_eq_some_iff.mp h
      obtain ⟨c, hColumn, h⟩ := Option.bind_eq_some_iff.mp h
      cases h
      exact ⟨line, column, hFields, hLine, hColumn⟩
    · cases h
  · rintro ⟨line, column, hFields, hLine, hColumn⟩
    rw [ofJson?, ← fieldNames, hFields]
    simp only [Option.bind_eq_bind, Option.bind_some, hLine, hColumn]
    rfl

variable {p : Position} {ms : List (String × Value)}

theorem ofJson?_members (hFits : p.Fits) (h : Describes fieldNames p.members ms) :
    ofJson? (.ofMembers ms) = some p := by
  have hFields : (ofMembers ms).fields? fieldNames =
      some [some (.natural p.line), some (.natural p.column)] :=
        h.fields? (by decide : fieldNames.Nodup)
  exact ofJson?_eq_some_iff.mpr ⟨_, _, hFields, word?_natural hFits.1, word?_natural hFits.2⟩

theorem decodesTo_members (hFits : p.Fits) (h : Describes fieldNames p.members ms) :
    DecodesTo ofJson? (.ofMembers ms) p :=
  decodesTo_of_writable (h.writable p.writable_members) (ofJson?_members hFits h)

theorem fits_of_ofJson? {v : Value} (h : ofJson? v = some p) : p.Fits := by
  obtain ⟨line, column, -, hLine, hColumn⟩ := ofJson?_eq_some_iff.mp h
  exact ⟨lt_of_word? hLine, lt_of_word? hColumn⟩

theorem requires {key : String} (hKey : key ∈ fieldNames) : Requires ofJson? key := by
  refine requires_of hKey fun v p h => ?_
  obtain ⟨line, column, hFields, -⟩ := ofJson?_eq_some_iff.mp h
  exact ⟨_, hFields, by simp [fieldNames]⟩

theorem roundTrips : RoundTrips toJson ofJson? Fits :=
  roundTrips_of (fun _ hFits => decodesTo_members hFits (describes_self rfl))
    fun _ _ h => fits_of_ofJson? h

end Text.Position

/-! ### Directives -/

theorem DirectiveKind.ofJson?_toJson (k : DirectiveKind) : ofJson? k.toJson = some k := by
  cases k <;> rfl

theorem DirectiveKind.roundTrips : RoundTrips toJson ofJson? fun _ => True :=
  roundTrips_of (fun k _ => decodesTo_of_writable (writable_ofString _) k.ofJson?_toJson)
    fun _ _ _ => trivial

namespace Directive

def fieldNames : List String := ["kind", "payload", "position"]

/-- The fields of a directive, its place given by a value. -/
def members (d : Directive) (position : Value) : List (String × Value) :=
  [("kind", d.kind.toJson), ("payload", .ofString d.payload), ("position", position)]

theorem writable_members (d : Directive) {position : Value} (h : position.Writable) :
    ∀ m ∈ d.members position, m.2.Writable := by
  simp only [members, List.forall_mem_cons]
  exact ⟨writable_ofString _, writable_ofString _, h, List.forall_mem_nil _⟩

theorem ofJson?_eq_some_iff {v : Value} {d : Directive} :
    ofJson? v = some d ↔ ∃ kind payload position,
      v.fields? fieldNames = some [some kind, some payload, some position] ∧
      DirectiveKind.ofJson? kind = some d.kind ∧ payload.string? = some d.payload ∧
      Position.ofJson? position = some d.position := by
  constructor
  · intro h
    obtain ⟨values, hFields, h⟩ := Option.bind_eq_some_iff.mp h
    split at h
    · rename_i kind payload position
      obtain ⟨k, hKind, h⟩ := Option.bind_eq_some_iff.mp h
      obtain ⟨s, hPayload, h⟩ := Option.bind_eq_some_iff.mp h
      obtain ⟨p, hPosition, h⟩ := Option.bind_eq_some_iff.mp h
      cases h
      exact ⟨kind, payload, position, hFields, hKind, hPayload, hPosition⟩
    · cases h
  · rintro ⟨kind, payload, position, hFields, hKind, hPayload, hPosition⟩
    rw [ofJson?, ← fieldNames, hFields]
    simp only [Option.bind_eq_bind, Option.bind_some, hKind, hPayload, hPosition]
    rfl

variable {d : Directive} {place ms : List (String × Value)}

/-- The place, too, is read from any object that describes it. -/
theorem decodesTo_members (hFits : d.position.Fits)
    (hPlace : Describes Position.fieldNames d.position.members place)
    (h : Describes fieldNames (d.members (.ofMembers place)) ms) :
    DecodesTo ofJson? (.ofMembers ms) d := by
  have hFields : (ofMembers ms).fields? fieldNames =
      some [some d.kind.toJson, some (.ofString d.payload), some (.ofMembers place)] :=
    h.fields? (by decide : fieldNames.Nodup)
  have hWritable := d.writable_members (hPlace.writable d.position.writable_members)
  exact decodesTo_of_writable (h.writable hWritable) (ofJson?_eq_some_iff.mpr ⟨_, _, _, hFields,
    d.kind.ofJson?_toJson, string?_ofString _, Position.ofJson?_members hFits hPlace⟩)

theorem requires {key : String} (hKey : key ∈ fieldNames) : Requires ofJson? key := by
  refine requires_of hKey fun v d h => ?_
  obtain ⟨kind, payload, position, hFields, -⟩ := ofJson?_eq_some_iff.mp h
  exact ⟨_, hFields, by simp [fieldNames]⟩

theorem roundTrips : RoundTrips toJson ofJson? fun d => d.position.Fits := by
  refine roundTrips_of
    (fun d hFits => decodesTo_members hFits (describes_self rfl) (describes_self rfl))
    fun v d h => ?_
  obtain ⟨_, _, _, -, -, -, hPosition⟩ := ofJson?_eq_some_iff.mp h
  exact Position.fits_of_ofJson? hPosition

end Directive

/-! ### Units -/

namespace SourceUnit

def fieldNames : List String := ["package", "target", "deps", "funcs", "cflags", "ldflags"]

theorem writable_members (u : SourceUnit) : ∀ m ∈ u.members, m.2.Writable := by
  simp only [members, List.forall_mem_cons]
  exact ⟨writable_ofString _, writable_ofOption _, writable_ofStrings _, writable_ofStrings _,
    writable_ofStrings _, writable_ofStrings _, List.forall_mem_nil _⟩

/-- A unit is decoded as soon as the fields but the target are there. -/
theorem exists_fields_of_ofJson? {v : Value} {u : SourceUnit} (h : ofJson? v = some u) :
    ∃ package target deps funcs cflags ldflags, v.fields? fieldNames =
      some [some package, target, some deps, some funcs, some cflags, some ldflags] := by
  obtain ⟨values, hFields, h⟩ := Option.bind_eq_some_iff.mp h
  split at h
  · exact ⟨_, _, _, _, _, _, hFields⟩
  · cases h

theorem ofJson?_of_fields {v : Value} {u : SourceUnit} {target : Option Value}
    (hTarget : orElse optional? none target = some u.target)
    (h : v.fields? fieldNames = some [some (.ofString u.package), target, some (.ofStrings u.deps),
      some (.ofStrings u.funcs), some (.ofStrings u.cflags), some (.ofStrings u.ldflags)]) :
    ofJson? v = some u := by
  rw [ofJson?, ← fieldNames, h]
  simp only [Option.bind_eq_bind, Option.bind_some, hTarget, string?_ofString, strings?_ofStrings]
  rfl

variable {u : SourceUnit} {ms : List (String × Value)}

theorem ofJson?_members (h : Describes fieldNames u.members ms) :
    ofJson? (.ofMembers ms) = some u := by
  have hTarget : orElse optional? none (some (ofOption u.target)) = some u.target :=
    optional?_ofOption u.target
  exact ofJson?_of_fields hTarget (h.fields? (by decide : fieldNames.Nodup))

theorem decodesTo_members (h : Describes fieldNames u.members ms) :
    DecodesTo ofJson? (.ofMembers ms) u :=
  decodesTo_of_writable (h.writable u.writable_members) (ofJson?_members h)

/-- The fields of a unit but its target. -/
def otherMembers (u : SourceUnit) : List (String × Value) :=
  u.members.filter fun m => m.1 ≠ "target"

theorem decodesTo_otherMembers (h : Describes fieldNames u.otherMembers ms) :
    DecodesTo ofJson? (.ofMembers ms) { u with target := none } := by
  have hAll : (u.members.map Prod.fst).Nodup := (by decide : fieldNames.Nodup)
  have hKeys : (u.otherMembers.map Prod.fst).Nodup := nodup_keys_filter hAll _
  refine decodesTo_of_writable
    (h.writable fun m hm => u.writable_members m (List.mem_filter.mp hm).1) ?_
  have hTarget : orElse optional? none (none : Option Value) = some none := rfl
  exact ofJson?_of_fields hTarget (h.fields? hKeys)

theorem decodesTo_null (h : Describes fieldNames (("target", .null) :: u.otherMembers) ms) :
    DecodesTo ofJson? (.ofMembers ms) { u with target := none } := by
  have hPerm : (("target", .null) :: u.otherMembers).Perm { u with target := none }.members :=
    .swap ("package", ofString u.package) _ _
  exact decodesTo_members ⟨h.known.trans hPerm, h.unknown⟩

theorem requires {key : String} (hKey : key ∈ fieldNames) (hTarget : key ≠ "target") :
    Requires ofJson? key := by
  refine requires_of hKey fun v u h => ?_
  obtain ⟨package, target, deps, funcs, cflags, ldflags, hFields⟩ := exists_fields_of_ofJson? h
  exact ⟨_, hFields, by simp [fieldNames, hTarget]⟩

theorem roundTrips : RoundTrips toJson ofJson? fun _ => True :=
  roundTrips_of (fun _ _ => decodesTo_members (describes_self rfl)) fun _ _ _ => trivial

end SourceUnit

/-! ### The law -/

/-- **The data model round-trips through JSON.** -/
theorem json_round_trips :
    -- the texts of a value decode to this value, and decoding gives no value of which this is not
    -- so
    RoundTrips Config.toJson Config.ofJson? (fun _ => True) ∧
    RoundTrips Position.toJson Position.ofJson? Position.Fits ∧
    RoundTrips DirectiveKind.toJson DirectiveKind.ofJson? (fun _ => True) ∧
    RoundTrips Directive.toJson Directive.ofJson? (fun d => d.position.Fits) ∧
    RoundTrips SourceUnit.toJson SourceUnit.ofJson? (fun _ => True) ∧
    -- fields may stand in any order among texts of other names; those of a configuration may be
    -- left out
    (∀ (c : Config) kept ms, Describes Config.fieldNames (c.members.filter fun m => kept m.1) ms →
      DecodesTo Config.ofJson? (.ofMembers ms) (c.restrict kept)) ∧
    (∀ (p : Position) ms, p.Fits → Describes Position.fieldNames p.members ms →
      DecodesTo Position.ofJson? (.ofMembers ms) p) ∧
    (∀ (d : Directive) place ms, d.position.Fits →
      Describes Position.fieldNames d.position.members place →
      Describes Directive.fieldNames (d.members (.ofMembers place)) ms →
      DecodesTo Directive.ofJson? (.ofMembers ms) d) ∧
    (∀ (u : SourceUnit) ms, Describes SourceUnit.fieldNames u.members ms →
      DecodesTo SourceUnit.ofJson? (.ofMembers ms) u) ∧
    -- without a target, or with `null` for it, a unit has none
    (∀ (u : SourceUnit) ms,
      Describes SourceUnit.fieldNames u.otherMembers ms ∨
        Describes SourceUnit.fieldNames (("target", .null) :: u.otherMembers) ms →
      DecodesTo SourceUnit.ofJson? (.ofMembers ms) { u with target := none }) ∧
    -- every other field has to be there
    (∀ key ∈ Position.fieldNames, Requires Position.ofJson? key) ∧
    (∀ key ∈ Directive.fieldNames, Requires Directive.ofJson? key) ∧
    (∀ key ∈ SourceUnit.fieldNames, key ≠ "target" → Requires SourceUnit.ofJson? key) := by
  refine ⟨Config.roundTrips, Position.roundTrips, DirectiveKind.roundTrips, Directive.roundTrips,
    SourceUnit.roundTrips, fun c kept _ h => c.decodesTo_restrict kept h,
    fun _ _ hFits h => Position.decodesTo_members hFits h,
    fun _ _ _ hFits hPlace h => Directive.decodesTo_members hFits hPlace h,
    fun _ _ h => SourceUnit.decodesTo_members h, fun u ms h => ?_,
    fun _ hKey => Position.requires hKey, fun _ hKey => Directive.requires hKey,
    fun _ hKey hTarget => SourceUnit.requires hKey hTarget⟩
  rcases h with hLeftOut | hNull
  · exact SourceUnit.decodesTo_otherMembers hLeftOut
  · exact SourceUnit.decodesTo_null hNull

end BuildScan
