import ShellPages.Json.Written
import ShellPages.Proofs.Json.Scanning

/-!
# Reading what was written

Data fits a shape if its draft is read as this very data (`Json.Fits`). Texts, numbers and names fit
the shapes they are written for, lists do if their items do, and records if each member has the name
of a field and fits its shape, in the order of the fields (`FieldsFit`): such members are read one
after the other (`readMembers_ofMembers`) and stand in order already (`arrange_eq`). With what is
known of scanning, both written forms of such data are read as the data (`read_eq`), and both
written forms of a value as this value (`RoundTrips.read_eq`).
-/

namespace ShellPages.Json

open Data (Shape Presence FieldReader)

/-- Data that is read as it is where a shape is expected. -/
structure Fits (shape : Shape) (j : Json) : Prop where
  inRange : InRange j
  readAs_ofJson : (Draft.ofJson j).readAs shape = .ok j

/-- The value of a field: one that fits, or nothing if the field may be nothing. -/
def FieldFits (presence : Presence) (shape : Shape) (value : Json) : Prop :=
  Fits shape value ∨ presence = .nullable ∧ value = null

/-- Members in the order of the fields of a record, of which those that need not be given may be
left out. -/
inductive FieldsFit : List (String × Presence × Shape) → List (String × Json) → Prop
  | nil : FieldsFit [] []
  | given {name : String} {presence : Presence} {shape : Shape} {value : Json}
      {fields : List (String × Presence × Shape)} {members : List (String × Json)}
      (hvalue : FieldFits presence shape value) (hrest : FieldsFit fields members) :
      FieldsFit ((name, presence, shape) :: fields) ((name, value) :: members)
  | omitted {name : String} {presence : Presence} {shape : Shape}
      {fields : List (String × Presence × Shape)} {members : List (String × Json)}
      (hpresence : presence ≠ .required) (hrest : FieldsFit fields members) :
      FieldsFit ((name, presence, shape) :: fields) members

/-! ## Texts, numbers and names -/

theorem fits_text (s : String) : Fits .text (string s) :=
  ⟨trivial, rfl⟩

theorem fits_path (s : String) : Fits .path (string s) :=
  ⟨trivial, rfl⟩

theorem fits_count {n : Nat} (h : n ≤ maxNatural) : Fits .count (number n) :=
  ⟨h, rfl⟩

theorem fits_choice {names : List String} {name : String} (h : name ∈ names) :
    Fits (.choice names) (string name) :=
  ⟨trivial, if_pos (List.contains_iff_mem.2 h)⟩

/-! ## Lists -/

theorem itemsInRange_iff {items : List Json} : ItemsInRange items ↔ ∀ j ∈ items, InRange j := by
  induction items with
  | nil => simp [ItemsInRange]
  | cons item rest ih => simp [ItemsInRange, ih]

theorem mapM_ofItems {read : Draft → Except Fault Json} {items : List Json}
    (h : ∀ j ∈ items, read (Draft.ofJson j) = .ok j) :
    (Draft.ofItems items).mapM read = .ok items := by
  induction items with
  | nil => rfl
  | cons item rest ih =>
    rw [Draft.ofItems, List.mapM_cons, h item List.mem_cons_self,
      ih fun j hj => h j (List.mem_cons_of_mem _ hj)]
    rfl

/-- A list fits if each of its items does. -/
theorem fits_list {shape : Shape} {items : List Json} (h : ∀ j ∈ items, Fits shape j) :
    Fits (.list shape) (array items) := by
  refine ⟨itemsInRange_iff.2 fun j hj => (h j hj).inRange, ?_⟩
  have hitems := mapM_ofItems fun j hj => (h j hj).readAs_ofJson
  rw [Draft.ofJson, Draft.readAs, Draft.readList, hitems]
  rfl

/-! ## Records -/

theorem FieldFits.inRange {presence : Presence} {shape : Shape} {value : Json}
    (h : FieldFits presence shape value) : InRange value := by
  rcases h with h | ⟨-, rfl⟩
  · exact h.inRange
  · trivial

/-- The reader of a field reads a value of this field as it is. -/
theorem exists_readers_eq {presence : Presence} {shape : Shape} {value : Json}
    (h : FieldFits presence shape value) (name : String)
    (fields : List (String × Presence × Shape)) :
    ∃ field, Draft.readers ((name, presence, shape) :: fields) = field :: Draft.readers fields ∧
      field.name = name ∧ field.read (Draft.ofJson value) = .ok value := by
  rw [Draft.readers]
  refine ⟨_, rfl, rfl, ?_⟩
  rcases h with h | ⟨rfl, rfl⟩
  · dsimp only
    split
    · cases value with
      | null => rfl
      | number | string | array | object => exact h.readAs_ofJson
    · exact h.readAs_ofJson
  · rfl

namespace FieldsFit

variable {fields : List (String × Presence × Shape)} {members : List (String × Json)}

theorem inRange (h : FieldsFit fields members) : MembersInRange members := by
  induction h with
  | nil => trivial
  | given hvalue _ ih => exact ⟨hvalue.inRange, ih⟩
  | omitted _ _ ih => exact ih

/-- The names of the members are names of fields, in the same order. -/
theorem sublist (h : FieldsFit fields members) :
    (members.map Prod.fst).Sublist (fields.map Prod.fst) := by
  induction h with
  | nil => exact .slnil
  | given _ _ ih => exact ih.cons_cons _
  | omitted _ _ ih => exact ih.cons _

theorem ne_of_mem (h : FieldsFit fields members) {first name : String} {value : Json}
    (hfirst : first ∉ fields.map Prod.fst) (hmem : (name, value) ∈ members) : first ≠ name := by
  rintro rfl
  exact hfirst (h.sublist.subset (List.mem_map_of_mem hmem))

/-- The field of each member reads its value as it is. -/
theorem exists_find?_readers (h : FieldsFit fields members) (hfields : (fields.map Prod.fst).Nodup)
    {name : String} {value : Json} (hmem : (name, value) ∈ members) :
    ∃ field, (Draft.readers fields).find? (fun field => field.name == name) = some field ∧
      field.read (Draft.ofJson value) = .ok value := by
  induction h with
  | nil => exact absurd hmem List.not_mem_nil
  | @given first _ _ _ fields _ hvalue hrest ih =>
    obtain ⟨hfirst, hothers⟩ := List.nodup_cons.1 hfields
    obtain ⟨field, hreaders, hname, hread⟩ := exists_readers_eq hvalue first fields
    rw [hreaders, List.find?_cons, hname]
    rcases List.mem_cons.1 hmem with heq | hmem
    · cases heq
      exact ⟨field, by rw [beq_self_eq_true], hread⟩
    · rw [beq_false_of_ne (hrest.ne_of_mem hfirst hmem)]
      exact ih hothers hmem
  | omitted _ hrest ih =>
    obtain ⟨hfirst, hothers⟩ := List.nodup_cons.1 hfields
    rw [Draft.readers, List.find?_cons, beq_false_of_ne (hrest.ne_of_mem hfirst hmem)]
    exact ih hothers hmem

end FieldsFit

/-- Members that have a field each are read one after the other. -/
theorem readMembers_ofMembers {fields : List (FieldReader Draft (Except Fault))}
    {given members : List (String × Json)} (hnames : ((given ++ members).map Prod.fst).Nodup)
    (h : ∀ name value, (name, value) ∈ members →
      ∃ field, fields.find? (fun field => field.name == name) = some field ∧
        field.read (Draft.ofJson value) = .ok value) :
    Data.readMembers fields Draft.keyText Draft.ignore .misfit given (Draft.ofMembers members) =
      .ok (given ++ members) := by
  induction members generalizing given with
  | nil =>
    rw [List.append_nil]
    rfl
  | cons member rest ih =>
    obtain ⟨name, value⟩ := member
    obtain ⟨field, hfield, hread⟩ := h name value List.mem_cons_self
    have hnew : ¬given.any fun member => member.1 == name := by
      rw [List.map_append, List.nodup_append] at hnames
      intro hany
      obtain ⟨member, hmem, heq⟩ := List.any_eq_true.1 hany
      exact hnames.2.2 _ (List.mem_map_of_mem hmem) name List.mem_cons_self (eq_of_beq heq)
    rw [List.append_cons] at hnames
    have hrest := ih hnames fun name value hmem => h name value (List.mem_cons_of_mem _ hmem)
    rw [Draft.ofMembers, Data.readMembers]
    simp only [Draft.keyText, bind, Except.bind, hfield, if_neg hnew, hread, hrest]
    rw [← List.append_cons]

/-- Members in the order of their fields stay in this order. -/
theorem arrange_eq {fields : List (String × Presence × Shape)}
    {given members : List (String × Json)} (h : FieldsFit fields members)
    (hfields : (fields.map Prod.fst).Nodup)
    (hgiven : ∀ name ∈ fields.map Prod.fst, given.lookup name = members.lookup name) :
    Data.arrange .misfit given (Draft.readers fields) = .ok members := by
  induction h with
  | nil => rfl
  | @given first _ _ value fields members hvalue hrest ih =>
    obtain ⟨hfirst, hothers⟩ := List.nodup_cons.1 hfields
    obtain ⟨field, hreaders, hname, -⟩ := exists_readers_eq hvalue first fields
    have hlookup : given.lookup field.name = some value := by
      rw [hname, hgiven first List.mem_cons_self, List.lookup_cons_self]
    have hrest := ih hothers fun name hmem => by
      have hne : (name == first) = false := beq_false_of_ne (ne_of_mem_of_not_mem hmem hfirst)
      rw [hgiven name (List.mem_cons_of_mem _ hmem), List.lookup_cons, hne]
    rw [hreaders, Data.arrange, hlookup, hrest, hname]
    rfl
  | @omitted first presence _ fields members hpresence hrest ih =>
    obtain ⟨hfirst, hothers⟩ := List.nodup_cons.1 hfields
    have hlookup : given.lookup first = none := by
      rw [hgiven first List.mem_cons_self, List.lookup_eq_none_iff]
      exact fun member hmem => bne_iff_ne.2 (hrest.ne_of_mem hfirst hmem)
    have hrest := ih hothers fun name hmem => hgiven name (List.mem_cons_of_mem _ hmem)
    rw [Draft.readers, Data.arrange, hlookup, hrest]
    cases presence with
    | required => contradiction
    | defaulted | nullable => rfl

/-- A record fits if its members do, and its fields have different names. -/
theorem fits_record {title : String} {fields : List (String × Presence × Shape)}
    {members : List (String × Json)} (hfields : (fields.map Prod.fst).Nodup)
    (h : FieldsFit fields members) : Fits (.record title fields) (object members) := by
  refine ⟨h.inRange, ?_⟩
  have hread : Data.readMembers (Draft.readers fields) Draft.keyText Draft.ignore .misfit []
      (Draft.ofMembers members) = .ok members :=
    readMembers_ofMembers (h.sublist.nodup hfields) fun _ _ => h.exists_find?_readers hfields
  rw [Draft.ofJson, Draft.readAs, Draft.readRecord, hread]
  simp only [bind, Except.bind, arrange_eq h hfields fun _ _ => rfl, if_true]

/-! ## Written forms -/

/-- Both written forms of data that fits a shape are read as this data. -/
theorem read_eq {shape : Shape} {j : Json} (h : Fits shape j) {text : String}
    (htext : text = j.compact ∨ text = j.pretty) : read shape text = .ok j := by
  obtain ⟨l, hl⟩ := exists_layout_eq htext
  rw [read, Draft.scan_write l h.inRange hl]
  simp only [bind, Except.bind, h.readAs_ofJson]
  rfl

end ShellPages.Json

namespace ShellPages

open Json

/-- A value whose data fits, and is taken for this value. -/
structure RoundTrips {α : Type} [Written α] (a : α) : Prop where
  fits : Fits (Written.shape α) (Written.toJson a)
  ofJson?_toJson : Written.ofJson? (Written.toJson a) = some a

namespace RoundTrips

variable {α : Type} [Written α]

/-- Both written forms of a value are read as this value. -/
theorem read_eq {a : α} (h : RoundTrips a) {text : String}
    (htext : text = (Written.toJson a).compact ∨ text = (Written.toJson a).pretty) :
    Written.read α text = .ok a := by
  rw [Written.read, Json.read_eq h.fits htext]
  simp only [bind, Except.bind, h.ofJson?_toJson]

/-- A list is read as it is written if its items are. -/
theorem list {values : List α} (h : ∀ a ∈ values, RoundTrips a) : RoundTrips values where
  fits := fits_list fun j hj => by
    obtain ⟨a, ha, rfl⟩ := List.mem_map.1 hj
    exact (h a ha).fits
  ofJson?_toJson := by
    show (values.map Written.toJson).mapM Written.ofJson? = some values
    induction values with
    | nil => rfl
    | cons a rest ih =>
      rw [List.map_cons, List.mapM_cons, (h a List.mem_cons_self).ofJson?_toJson,
        ih fun b hb => h b (List.mem_cons_of_mem _ hb)]
      rfl

end RoundTrips

theorem roundTrips_string (s : String) : RoundTrips s :=
  ⟨fits_text s, rfl⟩

end ShellPages
