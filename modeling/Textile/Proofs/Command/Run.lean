import Textile.Command
import Textile.Proofs.Command.Arguments
import Textile.Proofs.Command.Tree

/-!
# What a run leaves behind

A command that is asked for a conversion writes all of the result to one place, or it writes
nothing but a message.

* **Options** (`Request.options_of_takes`): those that the settings of the command line denote.
* **On a desk** (`Request.run_desk`): a request is done exactly if there is a text to read and
  the file to write can be written.
* **On other hosts** (`Shows`, `Request.run_shown`): a host that shows a desk may refuse to read or
  to write for reasons of its own. As reading leaves the desk alone, a request is done as on the
  desk, or is refused and leaves the desk alone (`Request.run_follows`).

`run_converts_or_leaves_alone` puts these together.
-/

namespace Textile.Command

open Textile.Unicode

/-! ## Options -/

/-- The options that settings denote. -/
def Setting.options (settings : List Setting) : Options where
  tidySource := decide (.keepsLayout ∉ settings)
  trimResult := decide (.keepsEnds ∉ settings)
  ignored := (settings.filterMap Setting.ignored?).map lowercase

namespace Request

theorem options_of_takes {request : Request} {settings : List Setting}
    (h : ({} : Request).Takes settings request) : request.options = Setting.options settings := by
  have hflag {flag : Bool} {setting : Setting} (hcount : flag.toNat = settings.count setting) :
      (!flag) = decide (setting ∉ settings) := by
    have hmem : setting ∈ settings ↔ flag = true := by
      rw [← List.count_pos_iff, ← hcount]
      cases flag <;> simp
    simp [hmem]
  have hlayout := hflag (h.keepsLayout.trans (Nat.zero_add _))
  have hends := hflag (h.keepsEnds.trans (Nat.zero_add _))
  rw [options, Setting.options, hlayout, hends, h.ignored]
  rfl

/-- What is written: the result, with a newline at its end unless it is empty or has one. -/
theorem written_eq {request : Request} {settings : List Setting}
    (h : ({} : Request).Takes settings request) (html : String) :
    request.written html =
      let result := convert (Setting.options settings) html
      result ++ if result = "" ∨ result.toList.getLast? = some '\n' then "" else "\n" := by
  rw [written, options_of_takes h, closeLine]
  simp only [String.isEmpty_iff]
  split
  · rw [String.append_empty]
  · rw [String.push_eq_append]
    rfl

end Request

/-! ## On a desk -/

/-- A step after another one starts where that one ends. -/
theorem bind_eq {σ α β : Type} {first : StateM σ α} {state next : σ} {answer : α}
    (h : first state = (answer, next)) (rest : α → StateM σ β) :
    (first >>= rest) state = rest answer next := by
  show rest (first state).1 (first state).2 = _
  rw [h]

namespace Desk

variable {desk : Desk} {path text : String}

theorem writeFile_eq_of_ok {tree : Tree} (h : desk.tree.write path text.toUTF8 = .ok tree) :
    (Host.writeFile path text : StateM Desk (Except Obstacle Unit)) desk =
      (.ok (), { desk with tree }) := by
  simp only [Host.writeFile]
  rw [h]

theorem writeFile_eq_of_error {obstacle : Obstacle}
    (h : desk.tree.write path text.toUTF8 = .error obstacle) :
    (Host.writeFile path text : StateM Desk (Except Obstacle Unit)) desk =
      (.error obstacle, desk) := by
  simp only [Host.writeFile]
  rw [h]

end Desk

namespace Request

/-- The text that a request is about. -/
def Reads (request : Request) (desk : Desk) (html : String) : Prop :=
  match request.inputFile? with
  | some path => desk.tree.Holds path html.toUTF8
  | none => desk.input = html.toUTF8

/-- There is a way to write where a request asks for. -/
def CanWrite (request : Request) (desk : Desk) : Prop :=
  ∀ path, request.output? = some path → desk.tree.Writable path

/-- A text has been written where a request asks for, and nothing else has changed. -/
def Wrote (request : Request) (before after : Desk) (text : String) : Prop :=
  match request.output? with
  | some path =>
    before.tree.Wrote after.tree path text.toUTF8 ∧ after = { before with tree := after.tree }
  | none => after = { before with output := before.output ++ text }

theorem decode_eq_ok_iff {name html : String} {bytes : ByteArray} :
    decode name bytes = .ok html ↔ bytes = html.toUTF8 := by
  rw [← fromUTF8?_eq_some_iff, decode]
  cases String.fromUTF8? bytes with
  | none => simp
  | some text => simp

/-- Reading changes nothing, and gives the text that the request is about. -/
theorem readDocument_desk (request : Request) (desk : Desk) :
    ∃ document : Except Failure String,
      (request.readDocument : StateM Desk (Except Failure String)) desk = (document, desk) ∧
        ∀ html, document = .ok html ↔ request.Reads desk html := by
  unfold readDocument Reads
  cases request.inputFile? with
  | none => exact ⟨_, rfl, fun html => decode_eq_ok_iff⟩
  | some path =>
      refine ⟨_, rfl, fun html => Iff.trans ?_ Tree.read_eq_ok_iff⟩
      cases desk.tree.read path with
      | error obstacle => exact ⟨nofun, nofun⟩
      | ok bytes => exact decode_eq_ok_iff.trans ⟨congrArg _, Except.ok.inj⟩

/-- Writing does all, or it is refused and does nothing. -/
theorem writeResult_desk (request : Request) (desk : Desk) (text : String) :
    ∃ (answer : Except Failure Unit) (after : Desk),
      (request.writeResult text : StateM Desk (Except Failure Unit)) desk = (answer, after) ∧
        (answer = .ok () ∧ request.CanWrite desk ∧ request.Wrote desk after text ∨
          (∃ failure, answer = .error failure) ∧ ¬request.CanWrite desk ∧ after = desk) := by
  unfold writeResult Wrote CanWrite
  cases request.output? with
  | none => exact ⟨_, _, rfl, .inl ⟨rfl, nofun, rfl⟩⟩
  | some path =>
      have hwritable : (∃ tree, desk.tree.write path text.toUTF8 = .ok tree) ↔
          desk.tree.Writable path := Tree.exists_write_iff
      cases hwrite : desk.tree.write path text.toUTF8 with
      | error obstacle =>
          refine ⟨_, desk, bind_eq (Desk.writeFile_eq_of_error hwrite) _, .inr ⟨⟨_, rfl⟩, ?_, rfl⟩⟩
          -- A path that can be written would not have been refused.
          intro hcan
          obtain ⟨tree, hwrite'⟩ := hwritable.mpr (hcan path rfl)
          rw [hwrite] at hwrite'
          cases hwrite'
      | ok tree =>
          refine ⟨_, _, bind_eq (Desk.writeFile_eq_of_ok hwrite) _, .inl ⟨rfl, ?_, ?_, rfl⟩⟩
          · rintro _ ⟨⟩
            exact hwritable.mp ⟨tree, hwrite⟩
          · exact Tree.wrote_of_write hwrite

/-- On a desk a request is done, or nothing is changed. -/
theorem run_desk (request : Request) (desk : Desk) :
    ∃ (answer : Except Failure Unit) (after : Desk),
      (request.run : StateM Desk (Except Failure Unit)) desk = (answer, after) ∧
        (answer = .ok () ∧ request.CanWrite desk ∧
            (∃ html, request.Reads desk html ∧ request.Wrote desk after (request.written html)) ∨
          (∃ failure, answer = .error failure) ∧
            ¬((∃ html, request.Reads desk html) ∧ request.CanWrite desk) ∧ after = desk) := by
  obtain ⟨document, hdocument, hreads⟩ := request.readDocument_desk desk
  unfold run
  rw [bind_eq hdocument]
  cases document with
  | error failure =>
      refine ⟨_, _, rfl, .inr ⟨⟨failure, rfl⟩, ?_, rfl⟩⟩
      rintro ⟨⟨html, hhtml⟩, -⟩
      cases (hreads html).mpr hhtml
  | ok html =>
      have hhtml : request.Reads desk html := (hreads html).mp rfl
      obtain ⟨answer, after, hwrite, ⟨hok, hcan, hwrote⟩ | ⟨hfailure, hcannot, hafter⟩⟩ :=
        request.writeResult_desk desk (request.written html)
      · exact ⟨answer, after, hwrite, .inl ⟨hok, hcan, html, hhtml, hwrote⟩⟩
      · exact ⟨answer, after, hwrite, .inr ⟨hfailure, fun h => hcannot h.2, hafter⟩⟩

/-- What stands in the way of a request: there is no text to read, or the file to write cannot be
written. -/
inductive Hindered (request : Request) (desk : Desk) : Prop
  | file {path : String} (h : request.inputFile? = some path) (hfile : desk.tree.Textless path)
  | stdin (h : request.inputFile? = none) (hbytes : ¬desk.input.IsValidUTF8)
  | output {path : String} (h : request.output? = some path) (hpath : ¬desk.tree.Writable path)

theorem hindered_iff {request : Request} {desk : Desk} :
    request.Hindered desk ↔ ¬((∃ html, request.Reads desk html) ∧ request.CanWrite desk) := by
  constructor
  · rintro hhindered ⟨⟨html, hreads⟩, hcan⟩
    unfold Reads at hreads
    cases hhindered with
    | file h hfile =>
        rw [h] at hreads
        exact Tree.textless_iff.mp hfile html hreads
    | stdin h hbytes =>
        rw [h] at hreads
        exact hbytes (hreads ▸ html.isValidUTF8)
    | output h hpath => exact hpath (hcan _ h)
  · intro h
    by_cases hcan : request.CanWrite desk
    · have hnothing : ∀ html, ¬request.Reads desk html := fun html hreads =>
        h ⟨⟨html, hreads⟩, hcan⟩
      unfold Reads at hnothing
      cases hinput : request.inputFile? with
      | some path =>
          rw [hinput] at hnothing
          exact .file hinput (Tree.textless_iff.mpr hnothing)
      | none =>
          rw [hinput] at hnothing
          exact .stdin hinput fun hbytes => hnothing (String.fromUTF8 desk.input hbytes) rfl
    · simp only [CanWrite, not_forall] at hcan
      obtain ⟨path, houtput, hpath⟩ := hcan
      exact .output houtput hpath

end Request

/-! ## On other hosts -/

variable {σ : Type} {view : σ → Desk}

/-- An action does to the desk in view what the other one does, or it is refused and leaves the
desk alone. -/
def Follows {ε α : Type} (view : σ → Desk) (action : StateM σ (Except ε α))
    (model : StateM Desk (Except ε α)) : Prop :=
  ∀ state,
    (∃ answer next, action state = (answer, next) ∧ model (view state) = (answer, view next)) ∨
      ∃ fault next, action state = (.error fault, next) ∧ view next = view state

/-- A host whose states show a desk. It may refuse to read or to write for reasons of its own. -/
structure Shows [Host (StateM σ)] (view : σ → Desk) : Prop where
  readInput : Follows view Host.readInput Host.readInput
  readFile (path : String) : Follows view (Host.readFile path) (Host.readFile path)
  writeOutput (text : String) : Follows view (Host.writeOutput text) (Host.writeOutput text)
  writeFile (path text : String) :
    Follows view (Host.writeFile path text) (Host.writeFile path text)
  writeMessage (text : String) (state : σ) :
    view ((Host.writeMessage text : StateM σ Unit) state).2 =
      { view state with messages := (view state).messages ++ text }

theorem Follows.refl {ε α : Type} (action : StateM Desk (Except ε α)) : Follows id action action :=
  fun _ => .inl ⟨_, _, rfl, rfl⟩

/-- A desk shows itself. -/
theorem Desk.shows : Shows (id : Desk → Desk) where
  readInput := .refl _
  readFile _ := .refl _
  writeOutput _ := .refl _
  writeFile _ _ := .refl _
  writeMessage _ _ := rfl

/-- What is done with an answer is no matter, if a refusal stays one. -/
theorem Follows.map {ε α ε' α' : Type} {action : StateM σ (Except ε α)}
    {model : StateM Desk (Except ε α)} (h : Follows view action model)
    {f : Except ε α → Except ε' α'} (hf : ∀ fault, ∃ fault', f (.error fault) = .error fault') :
    Follows view (do return f (← action)) (do return f (← model)) := by
  intro state
  obtain ⟨answer, next, haction, hmodel⟩ | ⟨fault, next, haction, hview⟩ := h state
  · exact .inl ⟨f answer, next, bind_eq haction _, bind_eq hmodel _⟩
  · obtain ⟨fault', hfault⟩ := hf fault
    exact .inr ⟨fault', next, (bind_eq haction _).trans (by rw [hfault]; rfl), hview⟩

namespace Request

variable [Host (StateM σ)]

theorem readDocument_follows (host : Shows view) (request : Request) :
    Follows view request.readDocument request.readDocument := by
  unfold readDocument
  cases request.inputFile? with
  | none => exact host.readInput.map fun _ => ⟨_, rfl⟩
  | some path => exact (host.readFile path).map fun _ => ⟨_, rfl⟩

theorem writeResult_follows (host : Shows view) (request : Request) (text : String) :
    Follows view (request.writeResult text) (request.writeResult text) := by
  unfold writeResult
  cases request.output? with
  | none => exact (host.writeOutput text).map fun _ => ⟨_, rfl⟩
  | some path => exact (host.writeFile path text).map fun _ => ⟨_, rfl⟩

/-- A request is done as on the desk, or is refused and leaves the desk alone: what is read before
something is written changes nothing. -/
theorem run_follows (host : Shows view) (request : Request) :
    Follows view request.run request.run := by
  intro state
  unfold run
  obtain ⟨document, next, haction, hmodel⟩ | ⟨failure, next, haction, hview⟩ :=
    request.readDocument_follows host state
  · -- On a desk reading changes nothing, so the desk in view is still the one before.
    obtain ⟨document', hdesk, -⟩ := request.readDocument_desk (view state)
    obtain ⟨rfl, hview⟩ := Prod.mk.inj (hmodel.symm.trans hdesk)
    rw [bind_eq haction, bind_eq hmodel]
    cases document with
    | error failure => exact .inl ⟨_, _, rfl, rfl⟩
    | ok html =>
        obtain hwritten | ⟨failure, last, hwrite, hlast⟩ :=
          request.writeResult_follows host (request.written html) next
        · exact .inl hwritten
        · exact .inr ⟨failure, last, hwrite, hlast.trans hview⟩
  · rw [bind_eq haction]
    exact .inr ⟨failure, next, rfl, hview⟩

/-- A request is done, or the desk in view stays as it is. -/
theorem run_shown (host : Shows view) (request : Request) (state : σ) :
    ∃ (answer : Except Failure Unit) (next : σ),
      (request.run : StateM σ (Except Failure Unit)) state = (answer, next) ∧
        (answer = .ok () ∧ request.CanWrite (view state) ∧
            (∃ html, request.Reads (view state) html ∧
              request.Wrote (view state) (view next) (request.written html)) ∨
          (∃ failure, answer = .error failure) ∧ view next = view state) := by
  obtain ⟨answer, after, hmodel, hcases⟩ := request.run_desk (view state)
  obtain ⟨answer', next, haction, hmodel'⟩ | ⟨failure, next, haction, hview⟩ :=
    request.run_follows host state
  · obtain ⟨rfl, rfl⟩ := Prod.mk.inj (hmodel'.symm.trans hmodel)
    rcases hcases with hdone | ⟨hfailure, -, hview⟩
    · exact ⟨answer', next, haction, .inl hdone⟩
    · exact ⟨answer', next, haction, .inr ⟨hfailure, hview⟩⟩
  · exact ⟨_, next, haction, .inr ⟨⟨failure, rfl⟩, hview⟩⟩

end Request

/-! ## The command -/

variable [Host (StateM σ)] {arguments : List String} {request : Request}

theorem run_of_ok (h : Invocation.ofArguments arguments = .ok (.convert request)) {state next : σ}
    (hrun : (request.run : StateM σ (Except Failure Unit)) state = (.ok (), next)) :
    (run arguments : StateM σ UInt32) state = (0, next) := by
  unfold run
  rw [h]
  exact bind_eq hrun _

theorem run_of_error (host : Shows view)
    (h : Invocation.ofArguments arguments = .ok (.convert request)) {state next : σ}
    {failure : Failure}
    (hrun : (request.run : StateM σ (Except Failure Unit)) state = (.error failure, next))
    (hview : view next = view state) :
    ∃ last, (run arguments : StateM σ UInt32) state = (1, last) ∧
      view last = { view state with
        messages := (view state).messages ++ (name ++ ": " ++ failure.message ++ "\n") } := by
  rw [← hview]
  refine ⟨_, ?_, host.writeMessage (name ++ ": " ++ failure.message ++ "\n") next⟩
  unfold run
  rw [h]
  exact bind_eq hrun _

/-- Where nothing is refused for other reasons, a command fails if something stands in the way of
its request and not otherwise. -/
theorem run_desk_eq_one_iff (h : Invocation.ofArguments arguments = .ok (.convert request))
    (desk : Desk) :
    ((run arguments : StateM Desk UInt32) desk).1 = 1 ↔ request.Hindered desk := by
  rw [Request.hindered_iff]
  obtain ⟨answer, after, hrun, ⟨rfl, hcan, html, hreads, -⟩ | ⟨⟨failure, rfl⟩, hnot, hafter⟩⟩ :=
    request.run_desk desk
  · rw [run_of_ok h hrun]
    have hcode : ¬(0 : UInt32) = 1 := by decide
    exact ⟨fun h => absurd h hcode, fun hnot => absurd ⟨⟨html, hreads⟩, hcan⟩ hnot⟩
  · obtain ⟨last, hlast, -⟩ := run_of_error Desk.shows h hrun hafter
    rw [hlast]
    exact ⟨fun _ => hnot, fun _ => rfl⟩

/-- A command that is asked for a conversion converts all of its input under the options that its
settings denote, ends the last line of the result, writes it to one place and changes nothing else;
or it fails, and changes nothing but that it says why. It fails if something stands in its way, and
on a desk then only. -/
theorem run_converts_or_leaves_alone (host : Shows view)
    (h : Invocation.ofArguments arguments = .ok (.convert request)) (state : σ) :
    ∃ settings code next, Spells settings arguments ∧ ({} : Request).Takes settings request ∧
      (run arguments : StateM σ UInt32) state = (code, next) ∧
      (code = 0 ∧ (∃ html, request.Reads (view state) html ∧
          let result := convert (Setting.options settings) html
          let ending := if result = "" ∨ result.toList.getLast? = some '\n' then "" else "\n"
          request.Wrote (view state) (view next) (result ++ ending)) ∨
        code = 1 ∧ ∃ failure : Failure, view next = { view state with
          messages := (view state).messages ++
            ("html-to-textile: " ++ failure.message ++ "\n") }) ∧
      (request.Hindered (view state) → code = 1) ∧
      (((run arguments : StateM Desk UInt32) (view state)).1 = 1 ↔
        request.Hindered (view state)) := by
  obtain ⟨settings, hspells, htakes⟩ := ofArguments_eq_convert_iff.mp h
  have hdesk := run_desk_eq_one_iff h (view state)
  obtain ⟨answer, next, haction, ⟨rfl, hcan, html, hreads, hwrote⟩ | ⟨⟨failure, rfl⟩, hview⟩⟩ :=
    request.run_shown host state
  · rw [Request.written_eq htakes] at hwrote
    refine ⟨settings, 0, next, hspells, htakes, run_of_ok h haction,
      .inl ⟨rfl, html, hreads, hwrote⟩, fun hhindered => ?_, hdesk⟩
    exact absurd ⟨⟨html, hreads⟩, hcan⟩ (Request.hindered_iff.mp hhindered)
  · obtain ⟨last, hrun, hlast⟩ := run_of_error host h haction hview
    exact ⟨settings, 1, last, hspells, htakes, hrun, .inr ⟨rfl, failure, hlast⟩,
      fun _ => rfl, hdesk⟩

/-- A file may be converted in place: it is read before it is written, and no other file is. -/
theorem run_converts_or_leaves_alone_in_place :
    Shows (id : Desk → Desk) ∧
      Invocation.ofArguments ["-od/a", "--ignore", "B", "d/a"] = .ok (.convert
        { input? := some "d/a", output? := some "d/a", ignored := ["B"] }) ∧
      ∃ after : Desk, (run ["-od/a", "--ignore", "B", "d/a"] : StateM Desk UInt32)
          ⟨.empty, ⟨[["d"]], [(["b"], "y".toUTF8),
            (["d", "a"], "<b>q</b><ul><li>x</li></ul>".toUTF8)]⟩, "", ""⟩ = (0, after) ∧
        after.tree.Holds "d/a" "* x\n".toUTF8 ∧ after.tree.content? ["b"] = some "y".toUTF8 := by
  let request : Request := { input? := some "d/a", output? := some "d/a", ignored := ["B"] }
  let html := "<b>q</b><ul><li>x</li></ul>"
  let desk : Desk := ⟨.empty, ⟨[["d"]], [(["b"], "y".toUTF8), (["d", "a"], html.toUTF8)]⟩, "", ""⟩
  have harguments : Invocation.ofArguments ["-od/a", "--ignore", "B", "d/a"] =
      .ok (.convert request) := rfl
  refine ⟨Desk.shows, harguments, ?_⟩
  have hreads : request.Reads desk html := ⟨["d", "a"], rfl, rfl, rfl⟩
  have hcan : request.CanWrite desk := by
    rintro path ⟨⟩
    exact ⟨by decide, ["d", "a"], rfl, rfl⟩
  obtain ⟨settings, code, after, -, htakes, hrun, hcases, -, hcode⟩ :=
    run_converts_or_leaves_alone Desk.shows harguments desk
  have hoptions : Setting.options settings = { ignored := ["b"] } := by
    rw [← Request.options_of_takes htakes]
    decide +kernel
  rcases hcases with ⟨rfl, html', hreads', hwrote⟩ | ⟨rfl, -⟩
  · -- The place held one text, so that is what has been read.
    have hhtml : html' = html := by
      obtain ⟨place, ⟨⟩, -, hcontent⟩ := hreads'
      exact Option.some.inj ((fromUTF8?_eq_some_iff.mpr rfl).symm.trans
        (fromUTF8?_eq_some_iff.mpr (Option.some.inj hcontent).symm))
    have hresult : convert { ignored := ["b"] } html = "* x" := by decide +kernel
    simp only [hhtml, hoptions, hresult] at hwrote
    obtain ⟨hwritten, -⟩ := hwrote
    refine ⟨after, hrun, hwritten.holds, ?_⟩
    obtain ⟨place, ⟨⟩, -, -, -, hothers⟩ := hwritten
    exact hothers ["b"] (by decide)
  · have hhindered : request.Hindered desk := hcode.mp (congrArg Prod.fst hrun)
    exact absurd ⟨⟨html, hreads⟩, hcan⟩ (Request.hindered_iff.mp hhindered)

end Textile.Command
