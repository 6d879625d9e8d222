import LiveTemplates.Config.File
import LiveTemplates.Proofs.Config.Listed
import LiveTemplates.Proofs.Decimal.Numeral

set_option autoImplicit false

/-! # A path from the environment

With no file, one variable is all there is (`readSettings_variable`). Its value is taken for a truth
value or a number wherever it reads as one, and the path is the text of what it was taken for
(`Environment.reread`). That is the value itself if and only if it is spelled as that text
(`Environment.reread_eq_self_iff`), and so for every value with a character that no numeral has, a few
words apart (`Environment.IsName.kept`). -/

namespace LiveTemplates

namespace Scalar

/-- The text of a scalar. -/
def shown : Scalar → String
  | nothing => ""
  | bool b => toString b
  | whole i => toString i
  | real x => x.plainText
  | text s => s

theorem toText_eq {scalar : Scalar} (h : scalar ≠ .nothing) (key : String)
    (origin : Option String) : (Setting.scalar origin scalar).toText key = .ok scalar.shown := by
  cases scalar with
  | nothing => exact absurd rfl h
  | bool b => rfl
  | whole i => rfl
  | real x => rfl
  | text s => rfl

end Scalar

namespace Environment

variable {key value : String}

/-! ## What a value is taken for -/

/-- What a value is taken for where no list is looked for. -/
def guess (value : String) : Scalar :=
  if Text.lower value = "true" then .bool true
  else if Text.lower value = "false" then .bool false
  else
    match readWhole? value with
    | some i => .whole i
    | none =>
      match Double.parse? value with
      | some x => .real x
      | none => .text value

/-- The text that a value comes to. -/
def reread (value : String) : String := (guess value).shown

theorem readValue_eq (h : listKeys.contains key = false) (value : String) :
    readValue key value = .scalar origin (guess value) := by
  unfold readValue guess
  rw [h]
  dsimp only
  split
  · rfl
  · split
    · rfl
    · cases readWhole? value with
      | some i => rfl
      | none => cases Double.parse? value <;> rfl

theorem readVariable?_of_lower {name : String} (h : Text.lower name = nameStart ++ key)
    (value : String) : readVariable? name value = some (key, readValue key value) := by
  have hstart : nameStart.toList.isPrefixOf (nameStart.toList ++ key.toList) = true := by
    rw [List.isPrefixOf_iff_prefix]
    exact List.prefix_append _ _
  rw [readVariable?, h, String.toList_append, if_pos hstart, ← String.length_toList,
    List.drop_left, String.ofList_toList]

/-- What a value may be taken for, and why. -/
inductive TakenFor (value : String) : Scalar → Prop where
  | truth (b : Bool) (word : Text.lower value = toString b) : TakenFor value (.bool b)
  | whole (i : Int) (reads : readWhole? value = some i) : TakenFor value (.whole i)
  | real (x : Double) (broken : readWhole? value = none) (reads : Double.parse? value = some x) :
    TakenFor value (.real x)
  | text (other : ∀ b : Bool, Text.lower value ≠ toString b) (broken : readWhole? value = none)
    (unread : Double.parse? value = none) : TakenFor value (.text value)

theorem takenFor_guess (value : String) : TakenFor value (guess value) := by
  unfold guess
  split
  · next htrue => exact .truth true htrue
  · next htrue =>
      split
      · next hfalse => exact .truth false hfalse
      · next hfalse =>
          split
          · next i hwhole => exact .whole i hwhole
          · next hwhole =>
              split
              · next x hreal => exact .real x hwhole hreal
              · next hreal => exact .text (Bool.forall_bool.2 ⟨hfalse, htrue⟩) hwhole hreal

theorem guess_of_truth {b : Bool} (h : Text.lower value = toString b) : guess value = .bool b := by
  cases b with
  | false => rw [guess, h, if_neg (by decide), if_pos (by decide)]
  | true => rw [guess, h, if_pos (by decide)]

theorem guess_ne_nothing (value : String) : guess value ≠ .nothing := by
  intro hnothing
  have htaken := takenFor_guess value
  rw [hnothing] at htaken
  cases htaken

/-- No path becomes empty that was not. -/
theorem reread_ne_empty (h : value ≠ "") : reread value ≠ "" := by
  have htaken := takenFor_guess value
  unfold reread
  generalize guess value = scalar at htaken ⊢
  cases htaken with
  | truth b word => cases b <;> exact (by decide)
  | whole i reads =>
      show i.repr ≠ ""
      cases i with
      | ofNat n => exact Nat.repr_ne_empty
      | negSucc n => simp [Int.repr]
  | real x broken reads => exact Double.plainText_ne_empty x
  | text other broken unread => exact h

/-- A value that is spelled as the text of what it is taken for. -/
structure Kept (value : String) : Prop where
  truth : ∀ b : Bool, Text.lower value = toString b → value = toString b
  whole : ∀ i, readWhole? value = some i → value = toString i
  real : ∀ x, readWhole? value = none → Double.parse? value = some x → value = x.plainText

theorem Kept.reread_eq (h : Kept value) : reread value = value := by
  have htaken := takenFor_guess value
  unfold reread
  generalize guess value = scalar at htaken ⊢
  cases htaken with
  | truth b word => exact (h.truth b word).symm
  | whole i reads => exact (h.whole i reads).symm
  | real x broken reads => exact (h.real x broken reads).symm
  | text other broken unread => rfl

theorem reread_eq_self_iff : reread value = value ↔ Kept value := by
  constructor
  · intro h
    have htruth : ∀ b : Bool, Text.lower value = toString b → value = toString b := by
      intro b hb
      rw [← h, reread, guess_of_truth hb]
      rfl
    by_cases hword : ∃ b : Bool, Text.lower value = toString b
    · -- the words for truth values read as nothing else
      obtain ⟨b, hb⟩ := hword
      have hwhole : readWhole? (toString b) = none := by cases b <;> decide
      have hreal : Double.parse? (toString b) = none := by cases b <;> decide
      rw [← htruth b hb] at hwhole hreal
      exact ⟨htruth, by simp [hwhole], by simp [hreal]⟩
    · have htrue : Text.lower value ≠ "true" := fun hb => hword ⟨true, hb⟩
      have hfalse : Text.lower value ≠ "false" := fun hb => hword ⟨false, hb⟩
      rw [reread, guess, if_neg htrue, if_neg hfalse] at h
      refine ⟨htruth, ?_, ?_⟩
      · intro i hi
        rw [hi] at h
        exact h.symm
      · intro x hi hx
        rw [hi, hx] at h
        exact h.symm
  · exact Kept.reread_eq

/-- A value that reads as nothing else: no truth value, none of the words for infinity and for no
number, and some character that no numeral has. -/
structure IsName (value : String) : Prop where
  letter : ∃ c ∈ value.toList, Double.isNumeral c = false
  notTruth : Text.lower value ∉ ["true", "false"]
  notReal : String.ofList ((Double.unsigned value).map Char.toLower) ∉ ["inf", "infinity", "nan"]

theorem isNumeral_of_readWhole? {i : Int} (h : readWhole? value = some i) :
    ∀ c ∈ value.toList, Double.isNumeral c = true := by
  unfold readWhole? at h
  split at h
  next negative digits hsign =>
    have hunsigned : Double.unsigned value = digits := by
      unfold Double.unsigned
      split at hsign <;> simp_all
    split at h
    · cases h
    · next hdigits =>
        refine Double.isNumeral_of_unsigned ?_
        rw [hunsigned]
        exact Double.isNumeral_of_digits hdigits

theorem IsName.kept (h : IsName value) : Kept value := by
  have hletter : ¬ ∀ c ∈ value.toList, Double.isNumeral c = true := by
    obtain ⟨c, hc, hother⟩ := h.letter
    intro hall
    rw [hall c hc] at hother
    cases hother
  refine ⟨?_, ?_, ?_⟩
  · intro b hb
    refine absurd ?_ h.notTruth
    rw [hb]
    cases b <;> decide
  · intro i hi
    exact absurd (isNumeral_of_readWhole? hi) hletter
  · intro x _ hx
    rcases Double.parse?_cases hx with hword | hnumeral
    · exact absurd hword h.notReal
    · exact absurd hnumeral hletter

end Environment

/-! ## One variable and no file -/

namespace Configuration

variable {tree : Tree} {file name key value : String}

/-- In a tree that holds nothing there is no file to find. -/
theorem findFile?_of_no_nodes (h : tree.nodes = []) (path : String) :
    findFile? tree path = none := by
  have hfile : ∀ path, tree.isFile path = false := by
    intro path
    unfold Tree.isFile Tree.look Tree.node?
    cases tree.locate path with
    | error fault => rfl
    | ok location => cases location <;> simp [h, Assoc.find?]
  simp [findFile?, hfile]

/-- With one variable and no file, its setting is the only one that is taken. -/
theorem readSettings_variable (nofile : findFile? tree file = none)
    (named : Text.lower name = Environment.nameStart ++ key)
    (single : Environment.listKeys.contains key = false)
    (path : Setting.readPath key = [.name key]) (lower : Text.lower key = key) :
    readSettings tree file [(name, value)]
      = Setting.take {} key (.scalar Environment.origin (Environment.guess value)) := by
  have hsettings : Environment.settings [(name, value)]
      = [(key, .scalar Environment.origin (Environment.guess value))] := by
    simp [Environment.settings, Environment.readVariable?_of_lower named,
      Environment.readValue_eq single]
  have hlaid : (Setting.empty.overlay []).overlay
        [(key, .scalar Environment.origin (Environment.guess value))]
      = .table none [(key, .scalar Environment.origin (Environment.guess value))] := by
    simp [Setting.overlay, path, Setting.assign, Setting.put, lower, Setting.empty,
      Setting.entries, Setting.tableOrigin, Dictionary.insert]
  simp only [readSettings, fileSettings, nofile, hsettings, hlaid, bind, Except.bind,
    Setting.entries, Setting.takeAll]
  cases Setting.take {} key (.scalar Environment.origin (Environment.guess value)) <;> rfl

theorem build_paths {path : String} (occupied : path ≠ "") (compilePath : Option String) :
    build { templatePath := path, compilePath } = .ok { templatePath := path, compilePath } := by
  have hlists : checkLists (lists { templatePath := path, compilePath }) = .ok () := rfl
  rw [build_of_checkLists occupied Encoding.check_utf8 hlists]
  rfl

theorem ofFile_templatePath (nofile : findFile? tree file = none) (occupied : value ≠ "") :
    ofFile tree file [("STENCIL_TEMPLATE_PATH", value)]
      = .ok { templatePath := Environment.reread value } := by
  have hname : Text.lower "STENCIL_TEMPLATE_PATH" = Environment.nameStart ++ "template_path" := by
    decide +kernel
  rw [ofFile, readSettings_variable nofile hname (by decide) (by decide) (by decide +kernel)]
  simp only [Setting.take, Scalar.toText_eq (Environment.guess_ne_nothing value)]
  exact build_paths (Environment.reread_ne_empty occupied) none

theorem take_compilePath {scalar : Scalar} (h : scalar ≠ .nothing) (origin : Option String) :
    Setting.take {} "compile_path" (.scalar origin scalar)
      = .ok { compilePath := some scalar.shown } := by
  cases scalar with
  | nothing => exact absurd rfl h
  | bool b => rfl
  | whole i => rfl
  | real x => rfl
  | text s => rfl

theorem ofFile_compilePath (nofile : findFile? tree file = none) (value : String) :
    ofFile tree file [("STENCIL_COMPILE_PATH", value)]
      = .ok { compilePath := some (Environment.reread value) } := by
  have hname : Text.lower "STENCIL_COMPILE_PATH" = Environment.nameStart ++ "compile_path" := by
    decide +kernel
  rw [ofFile, readSettings_variable nofile hname (by decide) (by decide) (by decide +kernel),
    take_compilePath (Environment.guess_ne_nothing value)]
  exact build_paths (by decide) _

/-- Given by the environment, a path is the text of what its value is taken for; given to the builder,
it is the value. The two configurations are the same if and only if the value is spelled as that text,
which every value is that reads as nothing else. -/
theorem path_from_environment (tree : Tree) (file value : String)
    (nofile : findFile? tree file = none) (occupied : value ≠ "") :
    ofFile tree file [("STENCIL_TEMPLATE_PATH", value)]
        = .ok { templatePath := Environment.reread value }
      ∧ ofFile tree file [("STENCIL_COMPILE_PATH", value)]
        = .ok { compilePath := some (Environment.reread value) }
      ∧ build { templatePath := value } = .ok { templatePath := value }
      ∧ build { compilePath := some value } = .ok { compilePath := some value }
      ∧ (ofFile tree file [("STENCIL_TEMPLATE_PATH", value)] = build { templatePath := value }
        ↔ Environment.Kept value)
      ∧ (ofFile tree file [("STENCIL_COMPILE_PATH", value)] = build { compilePath := some value }
        ↔ Environment.Kept value)
      ∧ (Environment.IsName value → Environment.Kept value) := by
  have htemplate := ofFile_templatePath nofile occupied
  have hcompile := ofFile_compilePath nofile value
  have hbuildTemplate := build_paths occupied none
  have hbuildCompile : build { compilePath := some value } = .ok { compilePath := some value } :=
    build_paths (by decide) _
  refine ⟨htemplate, hcompile, hbuildTemplate, hbuildCompile, ?_, ?_, Environment.IsName.kept⟩
  · rw [htemplate, hbuildTemplate, ← Environment.reread_eq_self_iff]
    simp
  · rw [hcompile, hbuildCompile, ← Environment.reread_eq_self_iff]
    simp

theorem path_from_environment_named :
    findFile? {} "stencil.toml" = none
      ∧ "/srv/1.50" ≠ ""
      ∧ Environment.IsName "/srv/1.50"
      ∧ ofFile {} "stencil.toml" [("STENCIL_TEMPLATE_PATH", "/srv/1.50")]
        = .ok { templatePath := "/srv/1.50" }
      ∧ ofFile {} "stencil.toml" [("STENCIL_COMPILE_PATH", "/srv/1.50")]
        = .ok { compilePath := some "/srv/1.50" } := by
  have hnofile : findFile? {} "stencil.toml" = none := findFile?_of_no_nodes rfl _
  have hname : Environment.IsName "/srv/1.50" :=
    ⟨⟨'/', by decide, by decide⟩, by decide +kernel, by decide⟩
  obtain ⟨-, -, hbuildTemplate, hbuildCompile, htemplate, hcompile, hkept⟩ :=
    path_from_environment {} "stencil.toml" "/srv/1.50" hnofile (by decide)
  refine ⟨hnofile, by decide, hname, ?_, ?_⟩
  · rw [htemplate.2 (hkept hname), hbuildTemplate]
  · rw [hcompile.2 (hkept hname), hbuildCompile]

/-- Zeros in front of a number, zeros behind its places and the capitals of a truth value get lost. -/
theorem path_from_environment_respelled :
    findFile? {} "stencil.toml" = none
      ∧ ofFile {} "stencil.toml" [("STENCIL_TEMPLATE_PATH", "007")] = .ok { templatePath := "7" }
      ∧ build { templatePath := "007" } = .ok { templatePath := "007" }
      ∧ ofFile {} "stencil.toml" [("STENCIL_COMPILE_PATH", "1.50")]
        = .ok { compilePath := some "1.5" }
      ∧ ofFile {} "stencil.toml" [("STENCIL_COMPILE_PATH", "True")]
        = .ok { compilePath := some "true" } := by
  have hnofile : findFile? {} "stencil.toml" = none := findFile?_of_no_nodes rfl _
  have hzeros : Environment.reread "007" = "7" := by decide +kernel
  have hplaces : Environment.reread "1.50" = "1.5" := by decide +kernel
  have hcapitals : Environment.reread "True" = "true" := by decide +kernel
  refine ⟨hnofile, ?_, build_paths (by decide) none, ?_, ?_⟩
  · rw [ofFile_templatePath hnofile (by decide), hzeros]
  · rw [ofFile_compilePath hnofile, hplaces]
  · rw [ofFile_compilePath hnofile, hcapitals]

end Configuration

end LiveTemplates
