import ShellPages.Page.Loading
import ShellPages.Proofs.Page.Path

/-!
# What loading a page tells apart

A page is missing, it can be read, or it exists and cannot be read: it does not open, it breaks
off, or its bytes are not UTF-8. `Unreadable` lists the last three with the fault that each of
them is. `tryPage` answers by these cases (`tryPage_of_ne_empty`), and `page` has the same text and
reports the fault. The main statement, `page_exact`, gives for every store the value, the events
and the paths of both.
-/

namespace ShellPages

/-! ## Resources -/

namespace Resource

/-- The text of a resource that can be read to its end and is one. -/
def text? : Resource → Option String
  | whole bytes => String.fromUTF8? bytes
  | closed _ | cutOff .. => none

/-- Why a resource cannot be read, as a fault at a path. -/
inductive Unreadable (path : String) : Resource → ReadFault → Prop
  | closed (reason : String) : Unreadable path (.closed reason) ⟨path, .failed reason⟩
  | cutOff (bytes : ByteArray) (reason : String) :
    Unreadable path (.cutOff bytes reason) ⟨path, .failed reason⟩
  | undecodable (bytes : ByteArray) (h : ∀ text : String, bytes ≠ text.toUTF8) :
    Unreadable path (.whole bytes) ⟨path, .undecodable (Text.decodeFault bytes)⟩

theorem Unreadable.path_eq {path : String} {resource : Resource} {fault : ReadFault}
    (h : Unreadable path resource fault) : fault.path = path := by
  cases h <;> rfl

theorem text_whole_of_ok (path : String) {bytes : ByteArray} {text : String}
    (h : Text.decode bytes = .ok text) : (whole bytes).text path = .ok text := by
  rw [Resource.text, h]
  rfl

theorem text_whole_of_error (path : String) {bytes : ByteArray} {fault : Text.DecodeFault}
    (h : Text.decode bytes = .error fault) :
    (whole bytes).text path = .error ⟨path, .undecodable fault⟩ := by
  rw [Resource.text, h]
  rfl

/-- A resource reads as a text if it is whole and its bytes are the encoding of that text. -/
theorem text_eq_ok_iff (path : String) {text : String} {resource : Resource} :
    resource.text path = .ok text ↔ resource = .whole text.toUTF8 := by
  cases resource with
  | whole bytes =>
    rw [Resource.whole.injEq, ← Text.decode_eq_ok_iff]
    cases hd : Text.decode bytes with
    | ok decoded => rw [text_whole_of_ok path hd, Except.ok.injEq, Except.ok.injEq]
    | error fault => simp [text_whole_of_error path hd]
  | closed reason => simp [Resource.text]
  | cutOff bytes reason => simp [Resource.text]

theorem decode_eq_error_iff {bytes : ByteArray} {fault : Text.DecodeFault} :
    Text.decode bytes = .error fault ↔
      (∀ text : String, bytes ≠ text.toUTF8) ∧ fault = Text.decodeFault bytes := by
  simp only [ne_eq, ← Text.decode_eq_ok_iff]
  unfold Text.decode
  cases String.fromUTF8? bytes with
  | none => simp [eq_comm]
  | some text => simp

/-- A resource does not read exactly for the listed reasons. -/
theorem text_eq_error_iff (path : String) {resource : Resource} {fault : ReadFault} :
    resource.text path = .error fault ↔ Unreadable path resource fault := by
  constructor
  · intro h
    cases resource with
    | whole bytes =>
      cases hd : Text.decode bytes with
      | ok text =>
        rw [text_whole_of_ok path hd] at h
        cases h
      | error cause =>
        rw [text_whole_of_error path hd] at h
        obtain ⟨hne, rfl⟩ := decode_eq_error_iff.1 hd
        cases h
        exact .undecodable bytes hne
    | closed reason =>
      cases h
      exact .closed reason
    | cutOff bytes reason =>
      cases h
      exact .cutOff bytes reason
  · intro h
    cases h with
    | closed reason => rfl
    | cutOff bytes reason => rfl
    | undecodable bytes hne => exact text_whole_of_error path (decode_eq_error_iff.2 ⟨hne, rfl⟩)

/-- A resource is unreadable exactly if it is not the whole encoding of any text. -/
theorem exists_unreadable_iff {path : String} {resource : Resource} :
    (∃ fault, Unreadable path resource fault) ↔
      ∀ text : String, resource ≠ .whole text.toUTF8 := by
  simp only [← text_eq_error_iff path, ne_eq, ← text_eq_ok_iff path]
  cases resource.text path <;> simp

theorem text?_eq_some_iff {text : String} {resource : Resource} :
    resource.text? = some text ↔ resource = .whole text.toUTF8 := by
  cases resource with
  | whole bytes =>
    rw [Resource.whole.injEq, ← Text.decode_eq_ok_iff, Resource.text?, Text.decode]
    cases String.fromUTF8? bytes <;> simp
  | closed reason => simp [Resource.text?]
  | cutOff bytes reason => simp [Resource.text?]

end Resource

open Resource

namespace Store

variable {store : Store} {base key : String}

/-! ## What is tried -/

/-- Without a base or a key there is nothing to try. -/
theorem tryPage_of_no_path (h : Page.path? base key = none) :
    store.tryPage base key = pure (.ok none) := by
  rw [tryPage, h]

/-- Otherwise the store is asked once, for the path of the page. -/
theorem tryPage_of_path {path : String} (h : Page.path? base key = some path) :
    store.tryPage base key =
      ⟨match store.find? path with
        | none => .ok none
        | some resource => (resource.text path).map some,
      [.opened path]⟩ := by
  rw [tryPage, h]
  simp only [visit, bind, pure, Traced.step]
  cases store.find? path <;> rfl

/-- Only what the store has at the path of the page matters. -/
theorem tryPage_congr {other : Store}
    (h : ∀ path, Page.path? base key = some path → store.find? path = other.find? path) :
    store.tryPage base key = other.tryPage base key := by
  cases hp : Page.path? base key with
  | none => rw [tryPage_of_no_path hp, tryPage_of_no_path hp]
  | some path => rw [tryPage_of_path hp, tryPage_of_path hp, h path hp]

theorem tryPage_eq_text_iff {text : String} :
    (store.tryPage base key).value = .ok (some text) ↔
      ∃ path, Page.path? base key = some path ∧ store.find? path = some (.whole text.toUTF8) := by
  cases hp : Page.path? base key with
  | none => simp [tryPage_of_no_path hp]
  | some path =>
    rw [tryPage_of_path hp]
    cases hf : store.find? path with
    | none => simp [hf]
    | some resource =>
      simp only [Option.some.injEq, exists_eq_left', hf]
      rw [← text_eq_ok_iff path]
      cases resource.text path <;> simp [Except.map]

theorem tryPage_eq_none_iff :
    (store.tryPage base key).value = .ok none ↔
      ∀ path, Page.path? base key = some path → store.find? path = none := by
  cases hp : Page.path? base key with
  | none => simp [tryPage_of_no_path hp]
  | some path =>
    rw [tryPage_of_path hp]
    cases hf : store.find? path with
    | none => simp [hf]
    | some resource =>
      simp only [Option.some.injEq, forall_eq', hf, reduceCtorEq, iff_false]
      cases resource.text path <;> simp [Except.map]

theorem tryPage_eq_error_iff {fault : ReadFault} :
    (store.tryPage base key).value = .error fault ↔
      ∃ path resource, Page.path? base key = some path ∧ store.find? path = some resource ∧
        Unreadable path resource fault := by
  cases hp : Page.path? base key with
  | none => simp [tryPage_of_no_path hp]
  | some path =>
    rw [tryPage_of_path hp]
    cases hf : store.find? path with
    | none => simp [hf]
    | some resource =>
      simp only [Option.some.injEq, exists_and_left, exists_eq_left', hf]
      rw [← text_eq_error_iff path]
      cases resource.text path <;> simp [Except.map]

theorem paths_tryPage : (store.tryPage base key).paths = (Page.path? base key).toList := by
  cases hp : Page.path? base key with
  | none => simp [tryPage_of_no_path hp]
  | some path => simp [tryPage_of_path hp, Traced.paths, Step.path?]

theorem events_tryPage : (store.tryPage base key).events = [] := by
  cases hp : Page.path? base key with
  | none => simp [tryPage_of_no_path hp]
  | some path => simp [tryPage_of_path hp, Traced.events, Step.event?]

/-! ## What is loaded -/

/-- A page is what is tried, with a fault reported after it. -/
theorem page_of_ok {found : Option String} (h : (store.tryPage base key).value = .ok found) :
    store.page base key = ⟨found, (store.tryPage base key).steps⟩ := by
  simp [page, bind, h, pure]

theorem page_of_error {fault : ReadFault} (h : (store.tryPage base key).value = .error fault) :
    store.page base key =
      ⟨none, (store.tryPage base key).steps ++ [.reported fault.event]⟩ := by
  simp [page, bind, h, pure, Traced.step]

theorem value_page_eq_some_iff {text : String} :
    (store.page base key).value = some text ↔
      (store.tryPage base key).value = .ok (some text) := by
  cases h : (store.tryPage base key).value with
  | ok found => simp [page_of_ok h]
  | error fault => simp [page_of_error h]

/-- The text of a page is that of the resource at its path. -/
theorem value_page : (store.page base key).value =
    ((Page.path? base key).bind store.find?).bind Resource.text? := by
  refine Option.ext fun text => ?_
  rw [value_page_eq_some_iff, tryPage_eq_text_iff]
  simp only [Option.bind_eq_some_iff, text?_eq_some_iff]
  constructor
  · rintro ⟨path, hp, hf⟩
    exact ⟨_, ⟨path, hp, hf⟩, rfl⟩
  · rintro ⟨_, ⟨path, hp, hf⟩, rfl⟩
    exact ⟨path, hp, hf⟩

theorem places_tryPage : (store.tryPage base key).places = [] := by
  cases hp : Page.path? base key with
  | none => simp [tryPage_of_no_path hp]
  | some path => simp [tryPage_of_path hp, Traced.places, Step.place?]

theorem places_page : (store.page base key).places = [] := by
  have ht : (store.tryPage base key).steps.filterMap Step.place? = [] := places_tryPage
  cases h : (store.tryPage base key).value with
  | ok found => simp [page_of_ok h, Traced.places, ht]
  | error fault => simp [page_of_error h, Traced.places, Step.place?, ht]

theorem paths_page : (store.page base key).paths = (Page.path? base key).toList := by
  rw [← @paths_tryPage store]
  cases h : (store.tryPage base key).value with
  | ok found => simp [page_of_ok h, Traced.paths]
  | error fault => simp [page_of_error h, Traced.paths, Step.path?]

theorem events_page_of_ok {found : Option String}
    (h : (store.tryPage base key).value = .ok found) : (store.page base key).events = [] := by
  rw [page_of_ok h]
  exact events_tryPage

theorem events_page_of_error {fault : ReadFault}
    (h : (store.tryPage base key).value = .error fault) :
    (store.page base key).events = [fault.event] := by
  have ht : (store.tryPage base key).steps.filterMap Step.event? = [] := events_tryPage
  simp [page_of_error h, Traced.events, Step.event?, ht]

/-! ## Trying and loading, case by case -/

theorem exists_path?_and_iff {P : String → Prop} :
    (∃ path, Page.path? base key = some path ∧ P path) ↔
      base ≠ "" ∧ key ≠ "" ∧ P (base ++ "/" ++ key ++ ".html") := by
  simp only [Page.path?_eq_some_iff]
  constructor
  · rintro ⟨_, ⟨hb, hk, rfl⟩, h⟩
    exact ⟨hb, hk, h⟩
  · rintro ⟨hb, hk, h⟩
    exact ⟨_, ⟨hb, hk, rfl⟩, h⟩

/-- **Trying and loading a page.** A page is found only as a whole and as it is. Trying fails
exactly on a resource that is there and does not read, with the path of the page in the fault.
Loading has the same text and reports each such fault once. Neither asks the store unless base
and key name a page. -/
theorem page_exact (store : Store) (base key : String) :
    let path := base ++ "/" ++ key ++ ".html"
    let tried := store.tryPage base key
    let loaded := store.page base key
    (∀ text : String, loaded.value = some text ↔ base ≠ "" ∧ key ≠ "" ∧
      store.find? path = some (.whole text.toUTF8)) ∧
    (∀ text, tried.value = .ok (some text) ↔ loaded.value = some text) ∧
    (tried.value = .ok none ↔ base = "" ∨ key = "" ∨ store.find? path = none) ∧
    ((∃ fault, tried.value = .error fault) ↔ base ≠ "" ∧ key ≠ "" ∧
      ∃ resource, store.find? path = some resource ∧
        ∀ text : String, resource ≠ .whole text.toUTF8) ∧
    (∀ fault, tried.value = .error fault → fault.path = path ∧
      ∃ resource, store.find? path = some resource ∧ Unreadable path resource fault) ∧
    (∀ fault, tried.value = .error fault →
      loaded.events = [fault.event] ∧ fault.event.level = .debug) ∧
    (∀ found, tried.value = .ok found → loaded.events = []) ∧
    tried.events = [] ∧
    (base = "" ∨ key = "" → tried.paths = [] ∧ loaded.paths = []) ∧
    (base ≠ "" → key ≠ "" → tried.paths = [path] ∧ loaded.paths = [path]) := by
  intro path tried loaded
  have herror : ∀ fault, tried.value = .error fault ↔ base ≠ "" ∧ key ≠ "" ∧
      ∃ resource, store.find? path = some resource ∧ Unreadable path resource fault := by
    intro fault
    simp only [tried, tryPage_eq_error_iff, exists_and_left]
    exact exists_path?_and_iff
  refine ⟨?_, ?_, ?_, ?_, ?_, ?_, ?_, events_tryPage, ?_, ?_⟩
  · intro text
    rw [value_page_eq_some_iff, tryPage_eq_text_iff, exists_path?_and_iff]
  · exact fun text => value_page_eq_some_iff.symm
  · rw [tryPage_eq_none_iff, ← or_assoc]
    by_cases h : base = "" ∨ key = ""
    · simp [Page.path?_eq_none_iff.2 h, h]
    · obtain ⟨hb, hk⟩ := not_or.1 h
      simp [Page.path?_eq_some_iff.2 ⟨hb, hk, rfl⟩, h, path]
  · simp only [herror, ← @exists_unreadable_iff path]
    constructor
    · rintro ⟨fault, hb, hk, resource, hr, hu⟩
      exact ⟨hb, hk, resource, hr, fault, hu⟩
    · rintro ⟨hb, hk, resource, hr, fault, hu⟩
      exact ⟨fault, hb, hk, resource, hr, hu⟩
  · intro fault h
    obtain ⟨-, -, resource, hr, hu⟩ := (herror fault).1 h
    exact ⟨hu.path_eq, resource, hr, hu⟩
  · exact fun fault h => ⟨events_page_of_error h, rfl⟩
  · exact fun found h => events_page_of_ok h
  · intro h
    have hp := Page.path?_eq_none_iff.2 h
    exact ⟨by rw [paths_tryPage, hp]; rfl, by rw [paths_page, hp]; rfl⟩
  · intro hb hk
    have hp := Page.path?_eq_some_iff.2 ⟨hb, hk, rfl⟩
    exact ⟨by rw [paths_tryPage, hp]; rfl, by rw [paths_page, hp]; rfl⟩

end Store

end ShellPages
