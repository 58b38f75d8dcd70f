import Mathlib.Data.List.Basic
import Textile.Command.Arguments

/-!
# Command lines

A command line is a list of settings, each written in one of several ways. This file says
which lines are read as a request to convert something, and what the request is.

* **Single arguments** (`Argument.ofString_of_isPlain`, `Argument.chars_ofString`): what is no
  option is told by its first characters, and the shape of an argument says all of it.
* **Lines** (`Spells`): how settings are written, one after the other.
* **Reading** (`ofArgumentsAfter_of_spells`, `exists_spells_of_eq_ok`): the settings of a line are
  taken into the request one by one, and nothing but such a line asks for a conversion.
* **Requests** (`foldlM_set_eq_ok_iff`): the request holds what the settings say, and is refused if
  they say something twice or name an empty path.

`ofArguments_eq_convert_iff` puts reading and requests together.
-/

namespace Textile.Command

/-! ## Single arguments -/

/-- An argument that is no option: a hyphen alone, or what does not start with a hyphen. -/
def IsPlain (text : String) : Prop :=
  text = "-" ∨ text.toList.head? ≠ some '-'

namespace Argument

/-- The characters of an argument. -/
def chars : Argument → List Char
  | separator => ['-', '-']
  | long name none => '-' :: '-' :: name.toList
  | long name (some value) => '-' :: '-' :: (name.toList ++ '=' :: value.toList)
  | short letter others => '-' :: letter :: others
  | plain text => text.toList

/-- The shape of an argument says all of it. -/
theorem chars_ofString (text : String) : (ofString text).chars = text.toList := by
  unfold ofString
  split
  · next h => exact h.symm
  · next cs _ h =>
      have hparts := List.takeWhile_append_dropWhile (p := (· ≠ '=')) (l := cs)
      dsimp only
      split
      · next hdrop =>
          rw [hdrop, List.append_nil] at hparts
          rw [chars, String.toList_ofList, h, hparts]
      · next c value hdrop =>
          -- What ends the name is an equals sign.
          have hc := List.head?_dropWhile_not (· ≠ '=') cs
          rw [hdrop] at hc
          obtain rfl : c = '=' := by simpa using hc
          rw [chars, String.toList_ofList, String.toList_ofList, ← hdrop, hparts, h]
  · next h => exact h.symm
  · rfl

theorem ofString_of_isPlain {text : String} (h : IsPlain text) : ofString text = .plain text := by
  have hlonger : ∀ c cs, text.toList ≠ '-' :: c :: cs := by
    rintro c cs heq
    rcases h with rfl | hhead
    · cases heq
    · rw [heq] at hhead
      exact hhead rfl
  unfold ofString
  split
  · next heq => exact absurd heq (hlonger _ _)
  · next heq => exact absurd heq (hlonger _ _)
  · next heq => exact absurd heq (hlonger _ _)
  · rfl

theorem isPlain_of_ofString {text value : String} (h : ofString text = .plain value) :
    value = text ∧ IsPlain text := by
  unfold ofString at h
  split at h
  · cases h
  · split at h <;> cases h
  · cases h
  · next hshort =>
      refine ⟨(Argument.plain.inj h).symm, ?_⟩
      rw [IsPlain, or_iff_not_imp_right, not_not]
      intro hhead
      obtain ⟨cs, hcs⟩ := List.head?_eq_some_iff.mp hhead
      cases cs with
      | nil => exact String.toList_inj.mp hcs
      | cons c cs => exact absurd hcs (hshort c cs)

/-- An option with its value attached. -/
theorem ofString_attached {name : String} (h : '=' ∉ name.toList) (value : String) :
    ofString ("--" ++ name ++ "=" ++ value) = .long name (some value) := by
  have hname : ∀ c ∈ name.toList, decide (c ≠ '=') = true := fun c hc =>
    decide_eq_true (by rintro rfl; exact h hc)
  have hchars : ("--" ++ name ++ "=" ++ value).toList =
      '-' :: '-' :: (name.toList ++ '=' :: value.toList) := by
    simp [String.toList_append]
  have htake : (name.toList ++ '=' :: value.toList).takeWhile (· ≠ '=') = name.toList := by
    rw [List.takeWhile_append_of_pos hname, List.takeWhile_cons_of_neg (by decide), List.append_nil]
  have hdrop : (name.toList ++ '=' :: value.toList).dropWhile (· ≠ '=') = '=' :: value.toList := by
    rw [List.dropWhile_append_of_pos hname, List.dropWhile_cons_of_neg (by decide)]
  obtain ⟨c, cs, hcs⟩ := List.exists_cons_of_ne_nil
    (List.append_ne_nil_of_right_ne_nil name.toList (List.cons_ne_nil '=' value.toList))
  rw [hcs] at hchars htake hdrop
  unfold ofString
  simp only [hchars, htake, hdrop, String.ofList_toList]

theorem ofString_short {text : String} {others : List Char}
    (h : text.toList = '-' :: 'o' :: others) : ofString text = .short 'o' others := by
  unfold ofString
  rw [h]
  rfl

end Argument

/-! ## Lines -/

/-- The name of an option that takes a value. -/
def ValueOption.name : ValueOption → String
  | output => "output"
  | ignore => "ignore"

/-- One thing that a command line says. -/
inductive Setting
  | input (path : String)
  | value (option : ValueOption) (text : String)
  | keepsLayout
  | keepsEnds
  deriving DecidableEq

/-- The ways to write a setting. -/
inductive Setting.Spelled : Setting → List String → Prop
  | input {path : String} (h : IsPlain path) : Spelled (.input path) [path]
  | next (option : ValueOption) {text : String} (h : IsPlain text) :
      Spelled (.value option text) ["--" ++ option.name, text]
  | attached (option : ValueOption) (text : String) :
      Spelled (.value option text) ["--" ++ option.name ++ "=" ++ text]
  | shortNext {text : String} (h : IsPlain text) : Spelled (.value .output text) ["-o", text]
  | shortAttached {text : String} (hne : text ≠ "") (h : text.toList.head? ≠ some '=') :
      Spelled (.value .output text) ["-o" ++ text]
  | shortEquals (text : String) : Spelled (.value .output text) ["-o=" ++ text]
  | keepsLayout : Spelled .keepsLayout ["--keep-source-whitespace"]
  | keepsEnds : Spelled .keepsEnds ["--no-trim"]

/-- The ways to write settings one after the other. After two hyphens, all that follows names
files to read. -/
inductive Spells : List Setting → List String → Prop
  | nil : Spells [] []
  | cons {setting : Setting} {block : List String} {settings : List Setting}
      {arguments : List String} (hsetting : setting.Spelled block)
      (hrest : Spells settings arguments) :
      Spells (setting :: settings) (block ++ arguments)
  | separator (paths : List String) : Spells (paths.map .input) ("--" :: paths)

/-! ## Reading -/

/-- Takes a setting into a request. -/
def Request.set (request : Request) : Setting → Except UsageError Request
  | .input path => request.setInput path
  | .value option text => request.setValue option text
  | .keepsLayout => request.setKeepsLayout
  | .keepsEnds => request.setKeepsEnds

namespace Invocation

/-- An option that waits for its value takes the next argument, if that is no option. -/
theorem ofArgumentsAfter_waiting {text : String} (h : IsPlain text) (request : Request)
    (option : ValueOption) (rest : List String) :
    ofArgumentsAfter request (some option) (text :: rest) =
      (request.setValue option text).bind fun request => ofArgumentsAfter request none rest := by
  conv_lhs => unfold ofArgumentsAfter
  simp only [Argument.ofString_of_isPlain h]

theorem ofArgumentsAfter_long (request : Request) (option : ValueOption) (text : String)
    (rest : List String) :
    ofArgumentsAfter request none (("--" ++ option.name ++ "=" ++ text) :: rest) =
      (request.setValue option text).bind fun request => ofArgumentsAfter request none rest := by
  have hname : '=' ∉ option.name.toList := by cases option <;> decide
  conv_lhs => unfold ofArgumentsAfter
  simp only [Argument.ofString_attached hname]
  cases option <;> rfl

/-- The value of the short option, which an equals sign may precede. -/
theorem ofArgumentsAfter_short {text : String} {others value : List Char}
    (h : text.toList = '-' :: 'o' :: others) (hne : others ≠ [])
    (hvalue : others = '=' :: value ∨ others = value ∧ others.head? ≠ some '=')
    (request : Request) (rest : List String) :
    ofArgumentsAfter request none (text :: rest) =
      (request.setValue .output (String.ofList value)).bind fun request =>
        ofArgumentsAfter request none rest := by
  conv_lhs => unfold ofArgumentsAfter
  simp only [Argument.ofString_short h]
  rcases hvalue with rfl | ⟨rfl, hhead⟩
  · rfl
  · obtain ⟨c, cs, rfl⟩ := List.exists_cons_of_ne_nil hne
    have hc : c ≠ '=' := by simpa using hhead
    simp [hc]

/-- A setting that is written is taken in, however it is written. -/
theorem ofArgumentsAfter_block {setting : Setting} {block : List String}
    (h : setting.Spelled block) (request : Request) (rest : List String) :
    ofArgumentsAfter request none (block ++ rest) =
      (request.set setting).bind fun request => ofArgumentsAfter request none rest := by
  cases h with
  | input h =>
      rw [List.singleton_append]
      conv_lhs => unfold ofArgumentsAfter
      simp only [Argument.ofString_of_isPlain h]
      rfl
  | next option h =>
      cases option with
      | output => exact ofArgumentsAfter_waiting h request .output rest
      | ignore => exact ofArgumentsAfter_waiting h request .ignore rest
  | attached option text => exact ofArgumentsAfter_long request option text rest
  | shortNext h => exact ofArgumentsAfter_waiting h request .output rest
  | @shortAttached text hne hhead =>
      have hchars : ("-o" ++ text).toList = '-' :: 'o' :: text.toList := by
        rw [String.toList_append]
        rfl
      have hvalue := ofArgumentsAfter_short hchars (by simpa using hne) (.inr ⟨rfl, hhead⟩)
        request rest
      rwa [String.ofList_toList] at hvalue
  | shortEquals text =>
      have hchars : ("-o=" ++ text).toList = '-' :: 'o' :: '=' :: text.toList := by
        rw [String.toList_append]
        rfl
      have hvalue := ofArgumentsAfter_short hchars (List.cons_ne_nil _ _) (.inl rfl) request rest
      rwa [String.ofList_toList] at hvalue
  | keepsLayout => rfl
  | keepsEnds => rfl

/-- The settings of a line are taken in one by one. -/
theorem ofArgumentsAfter_of_spells {settings : List Setting} {arguments : List String}
    (h : Spells settings arguments) (request : Request) :
    ofArgumentsAfter request none arguments =
      (settings.foldlM Request.set request).map .convert := by
  induction h generalizing request with
  | nil => rfl
  | @cons setting block settings arguments hsetting hrest ih =>
      rw [ofArgumentsAfter_block hsetting, List.foldlM_cons]
      show _ = ((request.set setting).bind _).map _
      cases request.set setting with
      | error fault => rfl
      | ok next => exact ih next
  | separator paths =>
      rw [List.foldlM_map]
      rfl

theorem exists_of_bind_eq_ok {next : Except UsageError Request} {result : Request}
    {rest : List String}
    (h : (next.bind fun request => ofArgumentsAfter request none rest) = .ok (.convert result)) :
    ∃ request, next = .ok request ∧
      ofArgumentsAfter request none rest = .ok (.convert result) := by
  cases next with
  | error fault => cases h
  | ok request => exact ⟨request, rfl, h⟩

/-- What the first argument of a line that asks for a conversion may be. -/
inductive Begins (request result : Request) (text : String) (rest : List String) : Prop
  | separator (htext : text = "--") (hpaths : rest.foldlM Request.setInput request = .ok result)
  | setting {setting : Setting} {next : Request} (hspelled : setting.Spelled [text])
      (hset : request.set setting = .ok next)
      (hrest : ofArgumentsAfter next none rest = .ok (.convert result))
  | waiting {option : ValueOption}
      (hspelled : ∀ value, IsPlain value → Setting.Spelled (.value option value) [text, value])
      (hrest : ofArgumentsAfter request (some option) rest = .ok (.convert result))

theorem Begins.of_bind {request result : Request} {text : String} {rest : List String}
    {setting : Setting} (hspelled : setting.Spelled [text])
    (h : ((request.set setting).bind fun request => ofArgumentsAfter request none rest) =
      .ok (.convert result)) : Begins request result text rest := by
  obtain ⟨next, hset, hrest⟩ := exists_of_bind_eq_ok h
  exact .setting hspelled hset hrest

theorem ofArgumentsAfter_cons_inv {request result : Request} {text : String} {rest : List String}
    (h : ofArgumentsAfter request none (text :: rest) = .ok (.convert result)) :
    Begins request result text rest := by
  have htext {argument : Argument} {same : String} (hshape : Argument.ofString text = argument)
      (hsame : argument.chars = same.toList) : text = same := by
    rw [← String.toList_inj, ← hsame, ← hshape, Argument.chars_ofString]
  have hattached (option : ValueOption) {value : String}
      (hshape : Argument.ofString text = .long option.name (some value)) :
      Setting.Spelled (.value option value) [text] := by
    obtain rfl : text = "--" ++ option.name ++ "=" ++ value :=
      htext hshape (by simp [Argument.chars, String.toList_append])
    exact .attached option value
  unfold ofArgumentsAfter at h
  split at h
  -- No option waits, and a line that is refused or answered at once asks for no conversion.
  any_goals first | contradiction | cases h | (split at h <;> cases h)
  · next path _ hshape =>
      obtain ⟨rfl, hplain⟩ := Argument.isPlain_of_ofString hshape
      exact .of_bind (.input hplain) h
  · next hshape =>
      refine .separator (htext hshape rfl) ?_
      cases hpaths : rest.foldlM Request.setInput request with
      | error fault =>
          rw [hpaths] at h
          cases h
      | ok last =>
          rw [hpaths] at h
          cases h
          rfl
  · next hshape =>
      obtain rfl : text = "-o" := htext hshape rfl
      exact .waiting (fun _ hplain => .shortNext hplain) h
  · next value _ hshape =>
      obtain rfl : text = "-o=" ++ String.ofList value :=
        htext hshape (by simp [Argument.chars, String.toList_append])
      exact .of_bind (.shortEquals (String.ofList value)) h
  · next value hne hequals _ hshape =>
      obtain rfl : text = "-o" ++ String.ofList value :=
        htext hshape (by simp [Argument.chars, String.toList_append])
      have hne' : String.ofList value ≠ "" := by
        rw [ne_eq, ← String.toList_inj, String.toList_ofList]
        exact hne
      have hhead : (String.ofList value).toList.head? ≠ some '=' := by
        rw [String.toList_ofList]
        intro hhead
        obtain ⟨others, hothers⟩ := List.head?_eq_some_iff.mp hhead
        exact hequals others hothers
      exact .of_bind (.shortAttached hne' hhead) h
  · next hshape =>
      obtain rfl : text = "--output" := htext hshape rfl
      exact .waiting (fun _ hplain => .next .output hplain) h
  · next hshape => exact .of_bind (hattached .output hshape) h
  · next hshape =>
      obtain rfl : text = "--ignore" := htext hshape rfl
      exact .waiting (fun _ hplain => .next .ignore hplain) h
  · next hshape => exact .of_bind (hattached .ignore hshape) h
  · next hshape =>
      obtain rfl : text = "--keep-source-whitespace" := htext hshape rfl
      exact .of_bind .keepsLayout h
  · next hshape =>
      obtain rfl : text = "--no-trim" := htext hshape rfl
      exact .of_bind .keepsEnds h

theorem ofArgumentsAfter_waiting_inv {request result : Request} {option : ValueOption}
    {arguments : List String}
    (h : ofArgumentsAfter request (some option) arguments = .ok (.convert result)) :
    ∃ value rest next, arguments = value :: rest ∧ IsPlain value ∧
      request.setValue option value = .ok next ∧
      ofArgumentsAfter next none rest = .ok (.convert result) := by
  unfold ofArgumentsAfter at h
  split at h
  · cases h
  · split at h
    any_goals first | contradiction | cases h
    next value hsome hshape =>
      obtain rfl := Option.some.inj hsome
      obtain ⟨rfl, hplain⟩ := Argument.isPlain_of_ofString hshape
      obtain ⟨next, hset, hrest⟩ := exists_of_bind_eq_ok h
      exact ⟨value, _, next, rfl, hplain, hset, hrest⟩

/-- Where a request comes out, the line is one of settings, and they have been taken in. -/
theorem exists_spells_of_eq_ok {request result : Request} {arguments : List String}
    (h : ofArgumentsAfter request none arguments = .ok (.convert result)) :
    ∃ settings, Spells settings arguments ∧ settings.foldlM Request.set request = .ok result := by
  cases arguments with
  | nil =>
      cases h
      exact ⟨[], .nil, rfl⟩
  | cons text rest =>
      cases ofArgumentsAfter_cons_inv h with
      | separator htext hpaths =>
          subst htext
          refine ⟨rest.map .input, .separator rest, ?_⟩
          rw [List.foldlM_map]
          exact hpaths
      | @setting setting next hspelled hset hrest =>
          obtain ⟨settings, hspells, hall⟩ := exists_spells_of_eq_ok hrest
          refine ⟨setting :: settings, .cons hspelled hspells, ?_⟩
          rw [List.foldlM_cons, hset]
          exact hall
      | @waiting option hspelled hwaiting =>
          obtain ⟨value, rest, next, rfl, hplain, hset, hrest⟩ :=
            ofArgumentsAfter_waiting_inv hwaiting
          obtain ⟨settings, hspells, hall⟩ := exists_spells_of_eq_ok hrest
          refine ⟨.value option value :: settings, .cons (hspelled value hplain) hspells, ?_⟩
          have hset' : request.set (.value option value) = .ok next := hset
          rw [List.foldlM_cons, hset']
          exact hall
  termination_by arguments.length

end Invocation

/-! ## Requests -/

namespace Setting

/-- The file to read, if the setting names one. -/
def input? : Setting → Option String
  | input path => some path
  | _ => none

/-- The file to write, if the setting names one. -/
def output? : Setting → Option String
  | value .output path => some path
  | _ => none

/-- The name of the elements to leave out, if the setting gives one. -/
def ignored? : Setting → Option String
  | value .ignore name => some name
  | _ => none

end Setting

/-- A request after the settings of a line: what they say is added to the request before. A file
to read or to write is named once at most, and by a path that is not empty; a flag is given once
at most. -/
@[mk_iff]
structure Request.Takes (before : Request) (settings : List Setting) (after : Request) :
    Prop where
  input : after.input?.toList = before.input?.toList ++ settings.filterMap Setting.input?
  output : after.output?.toList = before.output?.toList ++ settings.filterMap Setting.output?
  ignored : after.ignored = before.ignored ++ settings.filterMap Setting.ignored?
  keepsLayout : after.keepsLayout.toNat = before.keepsLayout.toNat + settings.count .keepsLayout
  keepsEnds : after.keepsEnds.toNat = before.keepsEnds.toNat + settings.count .keepsEnds
  named : "" ∉ settings.filterMap Setting.input? ∧ "" ∉ settings.filterMap Setting.output?

namespace Request

theorem setInput_eq_ok_iff {request next : Request} {path : String} :
    request.setInput path = .ok next ↔
      request.input? = none ∧ path ≠ "" ∧ { request with input? := some path } = next := by
  unfold setInput
  cases request.input? with
  | some other => simp
  | none =>
      by_cases hempty : path = ""
      · simp [hempty]
      · simp [hempty]

theorem setValue_output_eq_ok_iff {request next : Request} {path : String} :
    request.setValue .output path = .ok next ↔
      request.output? = none ∧ path ≠ "" ∧ { request with output? := some path } = next := by
  unfold setValue
  by_cases hempty : path = ""
  · simp [hempty]
  · cases request.output? with
    | some other => simp [hempty]
    | none => simp [hempty]

theorem setKeepsLayout_eq_ok_iff {request next : Request} :
    request.setKeepsLayout = .ok next ↔
      request.keepsLayout = false ∧ { request with keepsLayout := true } = next := by
  unfold setKeepsLayout
  cases request.keepsLayout with
  | true => simp
  | false => simp

theorem setKeepsEnds_eq_ok_iff {request next : Request} :
    request.setKeepsEnds = .ok next ↔
      request.keepsEnds = false ∧ { request with keepsEnds := true } = next := by
  unfold setKeepsEnds
  cases request.keepsEnds with
  | true => simp
  | false => simp

theorem takes_nil_iff {before after : Request} : before.Takes [] after ↔ before = after := by
  obtain ⟨input, output, ignored, layout, ends⟩ := before
  obtain ⟨input', output', ignored', layout', ends'⟩ := after
  have hinput : input'.toList = input.toList ↔ input = input' := by
    cases input <;> cases input' <;> simp [eq_comm]
  have houtput : output'.toList = output.toList ↔ output = output' := by
    cases output <;> cases output' <;> simp [eq_comm]
  have hlayout : layout'.toNat = layout.toNat ↔ layout = layout' := by
    cases layout <;> cases layout' <;> simp
  have hends : ends'.toNat = ends.toNat ↔ ends = ends' := by
    cases ends <;> cases ends' <;> simp
  simp [takes_iff, hinput, houtput, hlayout, hends, eq_comm]

/-- The settings after one that is taken in are taken into the request it makes. -/
theorem takes_cons_iff {before next after : Request} {setting : Setting}
    (h : before.set setting = .ok next) (settings : List Setting) :
    before.Takes (setting :: settings) after ↔ next.Takes settings after := by
  rw [takes_iff, takes_iff]
  cases setting with
  | input path =>
      obtain ⟨hnone, hne, rfl⟩ := setInput_eq_ok_iff.mp h
      simp [List.filterMap_cons, Setting.input?, Setting.output?, Setting.ignored?, hnone, hne.symm]
  | value option text =>
      cases option with
      | output =>
          obtain ⟨hnone, hne, rfl⟩ := setValue_output_eq_ok_iff.mp h
          simp [List.filterMap_cons, Setting.input?, Setting.output?, Setting.ignored?, hnone,
            hne.symm]
      | ignore =>
          obtain rfl := (Except.ok.inj h).symm
          simp [List.filterMap_cons, Setting.input?, Setting.output?, Setting.ignored?]
  | keepsLayout =>
      obtain ⟨hunset, rfl⟩ := setKeepsLayout_eq_ok_iff.mp h
      simp [List.filterMap_cons, Setting.input?, Setting.output?, Setting.ignored?, hunset,
        Nat.add_comm]
  | keepsEnds =>
      obtain ⟨hunset, rfl⟩ := setKeepsEnds_eq_ok_iff.mp h
      simp [List.filterMap_cons, Setting.input?, Setting.output?, Setting.ignored?, hunset,
        Nat.add_comm]

/-- What is named once at most has not been named before. -/
theorem eq_none_of_toList_eq {before after : Option String} {path : String} {rest : List String}
    (h : after.toList = before.toList ++ path :: rest) : before = none := by
  cases before with
  | none => rfl
  | some other => cases after <;> simp at h

/-- A flag that is given once at most has not been given before. -/
theorem eq_false_of_toNat_eq {before after : Bool} {count : Nat}
    (h : after.toNat = before.toNat + (count + 1)) : before = false := by
  cases before with
  | false => rfl
  | true =>
      have hle := after.toNat_le
      have htrue : true.toNat = 1 := rfl
      omega

/-- Nothing that settings say twice, and no empty path, stands in the way of the first one. -/
theorem Takes.exists_set {before after : Request} {setting : Setting} {settings : List Setting}
    (h : before.Takes (setting :: settings) after) : ∃ next, before.set setting = .ok next := by
  obtain ⟨hinput, houtput, -, hlayout, hends, hunnamed, hunnamed'⟩ := h
  cases setting with
  | input path =>
      have hcons : (Setting.input path :: settings).filterMap Setting.input? =
          path :: settings.filterMap Setting.input? := rfl
      rw [hcons] at hinput hunnamed
      have hne : path ≠ "" := fun hempty => hunnamed (hempty ▸ List.mem_cons_self)
      exact ⟨_, setInput_eq_ok_iff.mpr ⟨eq_none_of_toList_eq hinput, hne, rfl⟩⟩
  | value option text =>
      cases option with
      | output =>
          have hcons : (Setting.value .output text :: settings).filterMap Setting.output? =
              text :: settings.filterMap Setting.output? := rfl
          rw [hcons] at houtput hunnamed'
          have hne : text ≠ "" := fun hempty => hunnamed' (hempty ▸ List.mem_cons_self)
          exact ⟨_, setValue_output_eq_ok_iff.mpr ⟨eq_none_of_toList_eq houtput, hne, rfl⟩⟩
      | ignore => exact ⟨_, rfl⟩
  | keepsLayout =>
      rw [List.count_cons_self] at hlayout
      exact ⟨_, setKeepsLayout_eq_ok_iff.mpr ⟨eq_false_of_toNat_eq hlayout, rfl⟩⟩
  | keepsEnds =>
      rw [List.count_cons_self] at hends
      exact ⟨_, setKeepsEnds_eq_ok_iff.mpr ⟨eq_false_of_toNat_eq hends, rfl⟩⟩

/-- The settings of a line are taken in exactly if they say once at most what may be said once,
and name no empty path. -/
theorem foldlM_set_eq_ok_iff {before after : Request} {settings : List Setting} :
    settings.foldlM Request.set before = .ok after ↔ before.Takes settings after := by
  induction settings generalizing before with
  | nil =>
      rw [takes_nil_iff]
      exact ⟨Except.ok.inj, congrArg _⟩
  | cons setting settings ih =>
      rw [List.foldlM_cons]
      cases hset : before.set setting with
      | error fault =>
          refine ⟨nofun, fun h => ?_⟩
          obtain ⟨next, hnext⟩ := h.exists_set
          rw [hset] at hnext
          cases hnext
      | ok next =>
          rw [takes_cons_iff hset]
          exact ih

end Request

/-- A command line asks for a conversion exactly if it is made of settings of which each that may
be given once is given once at most, and the request holds what they say. -/
theorem ofArguments_eq_convert_iff {arguments : List String} {request : Request} :
    Invocation.ofArguments arguments = .ok (.convert request) ↔
      ∃ settings, Spells settings arguments ∧ ({} : Request).Takes settings request := by
  constructor
  · intro h
    obtain ⟨settings, hspells, hall⟩ := Invocation.exists_spells_of_eq_ok h
    exact ⟨settings, hspells, Request.foldlM_set_eq_ok_iff.mp hall⟩
  · rintro ⟨settings, hspells, htakes⟩
    rw [Invocation.ofArguments, Invocation.ofArgumentsAfter_of_spells hspells,
      Request.foldlM_set_eq_ok_iff.mpr htakes]
    rfl

end Textile.Command
