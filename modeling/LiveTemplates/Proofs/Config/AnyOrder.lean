import LiveTemplates.Config.Properties
import LiveTemplates.Proofs.Config.Fields
import LiveTemplates.Proofs.Config.Listed
import Mathlib.Data.List.Perm.Basic
import Mathlib.Data.List.Nodup

set_option autoImplicit false

/-! # Properties in any order

A property is a change of the one field that its key names, and whether it can be read does not depend
on what was set before (`setProperty_eq`). Two properties under different keys can therefore be taken
in either order (`take_comm`), and by permutation any number of them. -/

namespace LiveTemplates

namespace Configuration

variable {properties reordered : List (String × String)}

/-! ## One property -/

/-- The key of a field among properties. -/
def Field.property : Field → String
  | templatePath => "template.path"
  | inputEncoding => "input.encoding"
  | reloadable => "template.reloadable"
  | compilePath => "compile.path"
  | loader => "template.loader"
  | packages => "import.packages"
  | classes => "import.classes"
  | methods => "import.methods"
  | functions => "import.functions"
  | tags => "import.tags"
  | globals => "import.variables"
  | autoscan => "import.autoscan"
  | autoscanPackages => "import.autoscan.packages"

/-- The field that a key names, if it is known. -/
def Field.ofProperty? (key : String) : Option Field :=
  all.find? fun field => field.property = key

/-- The change that the text of a property stands for. -/
def Kind.change (key value : String) : (kind : Kind) → Except ConfigFault (kind.Value → kind.Value)
  | path | text => .ok fun _ => value
  | truth => (readBool key value).map fun read _ => read
  | optionalPath => .ok (if value.isEmpty then id else fun _ => some value)
  | loader => (LoaderKind.parse value).map fun read _ => read
  | texts => .ok (· ++ splitList value)

theorem Field.property_of_ofProperty? {key : String} {field : Field}
    (h : ofProperty? key = some field) : field.property = key := by
  simpa using List.find?_some h

theorem setProperty_of_known (config : Configuration) {key : String} {field : Field}
    (h : Text.trim key = field.property) (value : String) :
    config.setProperty key value
      = (field.kind.change field.property (Text.trim value)).map (config.modify field) := by
  unfold setProperty
  rw [h]
  generalize Text.trim value = value
  cases field with
  | loader =>
      show (LoaderKind.parse value).map _ = ((LoaderKind.parse value).map _).map _
      cases LoaderKind.parse value <;> rfl
  | reloadable =>
      show (readBool Field.reloadable.property value).map _ = ((readBool _ value).map _).map _
      cases readBool Field.reloadable.property value <;> rfl
  | autoscan =>
      show (readBool Field.autoscan.property value).map _ = ((readBool _ value).map _).map _
      cases readBool Field.autoscan.property value <;> rfl
  | compilePath =>
      simp only [Field.property, Field.kind, Kind.change, Except.map, modify]
      split <;> rfl
  | _ => simp only [Field.property, Field.kind, Kind.change, Except.map, modify, get, set]

theorem setProperty_of_unknown (config : Configuration) {key : String}
    (h : Field.ofProperty? (Text.trim key) = none) (value : String) :
    config.setProperty key value = .ok config := by
  have hunknown := List.find?_eq_none.1 h
  simp only [Field.all, List.forall_mem_cons, Field.property] at hunknown
  unfold setProperty
  dsimp only
  split <;> simp_all

/-- A property changes the field that its key names; an unknown one changes nothing. -/
theorem setProperty_eq (config : Configuration) (key value : String) :
    config.setProperty key value
      = match Field.ofProperty? (Text.trim key) with
        | some field =>
          (field.kind.change field.property (Text.trim value)).map (config.modify field)
        | none => .ok config := by
  cases hfield : Field.ofProperty? (Text.trim key) with
  | none => exact setProperty_of_unknown config hfield value
  | some field =>
      exact setProperty_of_known config (Field.property_of_ofProperty? hfield).symm value

/-! ## Several properties -/

/-- The change that a property is, if its value can be read. -/
def edit? (property : String × String) : Option (Configuration → Configuration) :=
  match Field.ofProperty? (Text.trim property.1) with
  | some field =>
    (field.kind.change field.property (Text.trim property.2)).toOption.map
      fun change config => config.modify field change
  | none => some id

theorem toOption_setProperty (config : Configuration) (property : String × String) :
    (config.setProperty property.1 property.2).toOption
      = (edit? property).map fun edit => edit config := by
  rw [setProperty_eq, edit?]
  cases Field.ofProperty? (Text.trim property.1) with
  | none => rfl
  | some field =>
      dsimp only
      cases field.kind.change field.property (Text.trim property.2) with
      | error fault => rfl
      | ok change => rfl

/-- Changes by properties under two keys can be made in either order. -/
theorem edit_comm {first second : String × String}
    (apart : Text.trim first.1 ≠ Text.trim second.1) {edit edit' : Configuration → Configuration}
    (hfirst : edit? first = some edit) (hsecond : edit? second = some edit')
    (config : Configuration) : edit' (edit config) = edit (edit' config) := by
  unfold edit? at hfirst hsecond
  split at hfirst
  · next field hfield =>
      split at hsecond
      · next other hother =>
          obtain ⟨change, -, rfl⟩ := Option.map_eq_some_iff.1 hfirst
          obtain ⟨change', -, rfl⟩ := Option.map_eq_some_iff.1 hsecond
          have hne : field ≠ other := by
            rintro rfl
            exact apart ((Field.property_of_ofProperty? hfield).symm.trans
              (Field.property_of_ofProperty? hother))
          exact modify_comm config hne change change'
      · cases hsecond
        rfl
  · cases hfirst
    rfl

/-- A configuration, if there is one yet, after one more property. -/
def take (config? : Option Configuration) (property : String × String) : Option Configuration :=
  config?.bind fun config => (edit? property).map fun edit => edit config

theorem take_comm (config? : Option Configuration) {first second : String × String}
    (apart : Text.trim first.1 ≠ Text.trim second.1) :
    take (take config? first) second = take (take config? second) first := by
  cases config? with
  | none => simp [take]
  | some config =>
      cases hfirst : edit? first with
      | none => cases hsecond : edit? second <;> simp [take, hfirst, hsecond]
      | some edit =>
          cases hsecond : edit? second with
          | none => simp [take, hfirst, hsecond]
          | some edit' => simp [take, hfirst, hsecond, edit_comm apart hfirst hsecond]

theorem foldl_take_none (properties : List (String × String)) :
    properties.foldl take none = none := by
  induction properties with
  | nil => rfl
  | cons first rest ih => exact ih

theorem toOption_setProperties (config : Configuration) (properties : List (String × String)) :
    (config.setProperties properties).toOption = properties.foldl take (some config) := by
  induction properties generalizing config with
  | nil => rfl
  | cons first rest ih =>
      rw [setProperties, List.foldl_cons, take, Option.bind_some, ← toOption_setProperty]
      cases config.setProperty first.1 first.2 with
      | ok changed => exact ih changed
      | error fault => exact (foldl_take_none rest).symm

theorem foldl_take_perm (distinct : (properties.map fun property => Text.trim property.1).Nodup)
    (reorders : properties.Perm reordered) (config? : Option Configuration) :
    properties.foldl take config? = reordered.foldl take config? := by
  refine reorders.foldl_eq' (fun first hfirst second hsecond reached => ?_) config?
  by_cases hsame : first = second
  · rw [hsame]
  · refine (take_comm reached fun htrim => hsame ?_)
    exact List.inj_on_of_nodup_map distinct hfirst hsecond htrim

theorem ofProperties_eq_ok_iff {config : Configuration} :
    ofProperties properties = .ok config
      ↔ properties.foldl take (some {}) = some config ∧ config.validate = .ok () := by
  rw [← toOption_setProperties, ofProperties]
  cases setProperties {} properties with
  | error fault =>
      constructor
      · intro h
        cases h
      · rintro ⟨h, -⟩
        cases h
  | ok read =>
      show read.build = .ok config ↔ some read = some config ∧ config.validate = .ok ()
      rw [build_eq_ok_iff, Option.some.injEq]
      constructor
      · rintro ⟨hvalid, rfl⟩
        exact ⟨rfl, hvalid⟩
      · rintro ⟨rfl, hvalid⟩
        exact ⟨hvalid, rfl⟩

/-- Properties under distinct keys give the same configuration in every order, or are refused in
every order. A configuration that they give is valid: built again, it is the same. -/
theorem properties_in_any_order
    (distinct : (properties.map fun property => Text.trim property.1).Nodup)
    (reorders : properties.Perm reordered) :
    (∀ config, ofProperties reordered = .ok config ↔ ofProperties properties = .ok config)
      ∧ ∀ config, ofProperties properties = .ok config → config.build = .ok config := by
  refine ⟨fun config => ?_, fun config hconfig => ?_⟩
  · rw [ofProperties_eq_ok_iff, ofProperties_eq_ok_iff, foldl_take_perm distinct reorders]
  · exact build_eq_ok_iff.2 ⟨(ofProperties_eq_ok_iff.1 hconfig).2, rfl⟩

/-- Properties of several kinds, an unknown one among them, and with blanks around keys. -/
def sampleProperties : List (String × String) := [
  ("template.path", "/srv/templates"), (" import.functions", "values, strings"),
  ("compile.path", ""), ("unknown.key", "x"), ("template.reloadable ", "Yes"),
  ("import.variables", "String site, int visits")]

theorem sampleProperties_backwards :
    (sampleProperties.map fun property => Text.trim property.1).Nodup
      ∧ sampleProperties.Perm sampleProperties.reverse
      ∧ ofProperties sampleProperties.reverse
        = .ok {
            templatePath := "/srv/templates"
            reloadable := true
            functions := ["values", "strings"]
            globals := ["String site", "int visits"] } := by
  have hdistinct : (sampleProperties.map fun property => Text.trim property.1).Nodup := by
    decide
  have hreverse : sampleProperties.Perm sampleProperties.reverse := List.reverse_perm _ |>.symm
  refine ⟨hdistinct, hreverse, ?_⟩
  rw [(properties_in_any_order hdistinct hreverse).1]
  decide +kernel

end Configuration

end LiveTemplates
