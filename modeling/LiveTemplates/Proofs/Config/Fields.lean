import LiveTemplates.Config.Basic

set_option autoImplicit false

/-! # A configuration field by field

A configuration is a value for each of its fields (`ext_of_get`). What a field holds is of one of six
kinds, and whatever reads or writes configurations goes by the kind. Setting one field leaves the
others as they are (`get_set_of_ne`), so changes of two fields can be made in either order
(`modify_comm`). -/

namespace LiveTemplates

namespace Configuration

/-- What a field may hold. -/
inductive Kind where
  | path
  | text
  | truth
  | optionalPath
  | loader
  | texts

/-- The values of a kind. -/
abbrev Kind.Value : Kind → Type
  | path => String
  | text => String
  | truth => Bool
  | optionalPath => Option String
  | loader => LoaderKind
  | texts => List String

/-- The fields of a configuration. -/
inductive Field where
  | templatePath
  | inputEncoding
  | reloadable
  | compilePath
  | loader
  | packages
  | classes
  | methods
  | functions
  | tags
  | globals
  | autoscan
  | autoscanPackages
  deriving DecidableEq

namespace Field

/-- What a field holds. -/
def kind : Field → Kind
  | templatePath => .path
  | inputEncoding => .text
  | reloadable | autoscan => .truth
  | compilePath => .optionalPath
  | loader => .loader
  | packages | classes | methods | functions | tags | globals | autoscanPackages => .texts

/-- All fields in their order. -/
def all : List Field := [
  templatePath, inputEncoding, reloadable, compilePath, loader, packages, classes, methods,
  functions, tags, globals, autoscan, autoscanPackages]

theorem mem_all (field : Field) : field ∈ all := by
  cases field <;> decide

end Field

/-- The value of a field. -/
def get (config : Configuration) : (field : Field) → field.kind.Value
  | .templatePath => config.templatePath
  | .inputEncoding => config.inputEncoding
  | .reloadable => config.reloadable
  | .compilePath => config.compilePath
  | .loader => config.loader
  | .packages => config.packages
  | .classes => config.classes
  | .methods => config.methods
  | .functions => config.functions
  | .tags => config.tags
  | .globals => config.globals
  | .autoscan => config.autoscan
  | .autoscanPackages => config.autoscanPackages

/-- The configuration with another value of a field. -/
def set (config : Configuration) : (field : Field) → field.kind.Value → Configuration
  | .templatePath, templatePath => { config with templatePath }
  | .inputEncoding, inputEncoding => { config with inputEncoding }
  | .reloadable, reloadable => { config with reloadable }
  | .compilePath, compilePath => { config with compilePath }
  | .loader, loader => { config with loader }
  | .packages, packages => { config with packages }
  | .classes, classes => { config with classes }
  | .methods, methods => { config with methods }
  | .functions, functions => { config with functions }
  | .tags, tags => { config with tags }
  | .globals, globals => { config with globals }
  | .autoscan, autoscan => { config with autoscan }
  | .autoscanPackages, autoscanPackages => { config with autoscanPackages }

/-- The configuration with one field changed. -/
def modify (config : Configuration) (field : Field)
    (change : field.kind.Value → field.kind.Value) : Configuration :=
  config.set field (change (config.get field))

theorem ext_of_get {config other : Configuration}
    (h : ∀ field, config.get field = other.get field) : config = other := by
  obtain ⟨⟩ := config
  obtain ⟨⟩ := other
  simp only [mk.injEq]
  exact ⟨h .templatePath, h .inputEncoding, h .reloadable, h .compilePath, h .loader, h .packages,
    h .classes, h .methods, h .functions, h .tags, h .globals, h .autoscan, h .autoscanPackages⟩

@[simp]
theorem get_set_self (config : Configuration) (field : Field) (value : field.kind.Value) :
    (config.set field value).get field = value := by
  cases field <;> rfl

theorem get_set_of_ne (config : Configuration) {field other : Field} (value : field.kind.Value)
    (h : other ≠ field) : (config.set field value).get other = config.get other := by
  cases field <;> cases other <;> first | rfl | exact absurd rfl h

theorem set_comm (config : Configuration) {field other : Field} (h : field ≠ other)
    (value : field.kind.Value) (value' : other.kind.Value) :
    (config.set field value).set other value' = (config.set other value').set field value := by
  refine ext_of_get fun asked => ?_
  by_cases hfield : asked = field
  · subst hfield
    rw [get_set_of_ne _ _ h, get_set_self, get_set_self]
  · rw [get_set_of_ne (config.set other value') value hfield]
    by_cases hother : asked = other
    · subst hother
      rw [get_set_self, get_set_self]
    · rw [get_set_of_ne _ _ hother, get_set_of_ne _ _ hother, get_set_of_ne _ _ hfield]

theorem modify_comm (config : Configuration) {field other : Field} (h : field ≠ other)
    (change : field.kind.Value → field.kind.Value)
    (change' : other.kind.Value → other.kind.Value) :
    (config.modify field change).modify other change'
      = (config.modify other change').modify field change := by
  simp only [modify]
  rw [get_set_of_ne _ _ h.symm, get_set_of_ne _ _ h, set_comm _ h]

end Configuration

end LiveTemplates
