import Mathlib.Data.Rat.Defs
import Aelkey.Lib.Assign

set_option relaxedAutoImplicit false
set_option autoImplicit false

/-!
# Inspection of scripts

The Lua part of `aelkey.daemon`: a script is run in a sandbox, a table `env` in which every unknown
global reads as a `proxy` that can be indexed and called, and the globals `inputs` and `outputs` are
returned. There is one sandbox for all scripts, so that a script finds what earlier ones have
assigned; and `inspect_string` hands the sandbox to `load` in the place of the mode, which is an
error whatever the script is.

## Main definitions

* `Aelkey.Daemon.Value`, `Aelkey.Daemon.Expr`, `Aelkey.Daemon.Script` — scripts that assign globals.
* `Aelkey.Daemon.loadfile`, `Aelkey.Daemon.load` — the loaders, with their arguments.
* `Aelkey.Daemon.inspectFile`, `Aelkey.Daemon.inspectString` — the functions of the module.
* `Aelkey.Daemon.OnlyScriptMatters` — the result is that of a fresh module, from a file or a string.

## Main results

* `Aelkey.Daemon.inspectString_eq` — `inspect_string` raises an error.
* `Aelkey.Daemon.inspectFile_eq_of_closed` — scripts whose result is that of a fresh module.
* `Aelkey.Daemon.onlyScriptMatters_never` — strings always differ from files, and when earlier
  scripts make no difference.

## Design

A script is what the parser makes of a text, and the same for a file and a string. The right-hand
sides of an assignment are any function of what the globals read as; they assign no globals
themselves. Tables and functions of a script are compared by what is written in them. Positions in
error messages are left out.
-/

namespace Aelkey.Daemon

open Assign

/-! ## Values and scripts -/

/-- The values of Lua. A function of a script is its text. -/
inductive Value
  | nil
  | boolean (b : Bool)
  | number (x : ℚ)
  | string (s : String)
  | table (fields : List (Value × Value))
  | function (text : String)
  | proxy
  | noop
  | require

instance : Inhabited Value := ⟨.nil⟩

/-- The metatable of `env`: a global that is missing reads as `proxy`. An assignment goes to the
table itself, with and without `__newindex`. -/
def fallback : Value → Value
  | .nil => .proxy
  | v => v

/-- Taking the fallback twice is taking it once. -/
@[simp] lemma fallback_fallback (v : Value) : fallback (fallback v) = fallback v := by
  cases v <;> rfl

/-- An expression, by what the globals read as. It may raise an error. -/
abbrev Expr := (String → Value) → Except String Value

/-- A global. -/
def Expr.global (g : String) : Expr := fun reads => .ok (reads g)

/-- A field of a value. For a value that is not `proxy` it is up to Lua. -/
def Expr.index (e key : Expr) (other : Value → Value → Except String Value) : Expr := fun reads =>
  (e reads).bind fun v => (key reads).bind fun k =>
    match v with
    | .proxy => .ok .proxy
    | v => other v k

/-- A call of a value: of `proxy`, of `noop`, of `require`, or of a value of the script, which is up
to Lua. -/
def Expr.call (e arg : Expr) (other : Value → Value → Except String Value) : Expr := fun reads =>
  (e reads).bind fun v => (arg reads).bind fun a =>
    match v with
    | .proxy => .ok .noop
    | .noop => .ok .nil
    | .require => .ok .proxy
    | v => other v a

/-- A script that assigns globals. -/
abbrev Script := List (Assignment String Value Value String)

/-- An assignment of one value to one global. -/
def assignOne (g : String) (e : Expr) : Assignment String Value Value String where
  targets := [g]
  values := fun reads => (e reads).map ([·])

/-- What a global reads. -/
lemma dependsOn_global (g : String) : DependsOn (Expr.global g) {g} := fun _ _ h =>
  congrArg Except.ok (h g rfl)

/-- What a field of a value reads. -/
lemma dependsOn_index {e key : Expr} {S : Set String} (he : DependsOn e S) (hkey : DependsOn key S)
    (other : Value → Value → Except String Value) : DependsOn (e.index key other) S := by
  intro x y h
  simp only [Expr.index, he h, hkey h]

/-- What a call of a value reads. -/
lemma dependsOn_call {e arg : Expr} {S : Set String} (he : DependsOn e S) (harg : DependsOn arg S)
    (other : Value → Value → Except String Value) : DependsOn (e.call arg other) S := by
  intro x y h
  simp only [Expr.call, he h, harg h]

/-- What an assignment reads. -/
lemma dependsOn_assignOne {e : Expr} {S : Set String} (he : DependsOn e S) (g : String) :
    DependsOn (assignOne g e).values S := by
  intro x y h
  simp only [assignOne, he h]

/-! ## The loaders -/

/-- A text, and what the parser makes of it. -/
structure Text where
  binary : Bool := false
  parsed : Except String Script

/-- An argument, as far as its type matters. -/
inductive Arg
  | none
  | string (s : String)
  | table

/-- The globals of a chunk: those of Lua, or the sandbox. -/
inductive Upvalue
  | globals
  | sandbox

/-- A chunk that has been loaded. -/
structure Chunk where
  script : Script
  upvalue : Upvalue

/-- `luaL_optstring`. -/
def optString (fn : String) (n : ℕ) (otherwise : String) : Arg → Except String String
  | .none => .ok otherwise
  | .string s => .ok s
  | .table => .error ("bad argument #" ++ toString n ++ " to '" ++ fn ++
      "' (string expected, got table)")

/-- A text is parsed if the mode has a letter for it. -/
def parse (text : Text) (mode : String) : Except String Script :=
  let (letter, kind) := if text.binary then ('b', "binary") else ('t', "text")
  if letter ∈ mode.toList then text.parsed
  else .error ("attempt to load a " ++ kind ++ " chunk (mode is '" ++ mode ++ "')")

/-- `loadfile(name, mode, env)`. A file that cannot be read is an error. Errors in the arguments are
raised, and others are returned. -/
def loadfile (file : Except String Text) (mode : Arg) (env : Upvalue) :
    Except String (Except String Chunk) :=
  (optString "loadfile" 2 "bt" mode).map fun mode =>
    file.bind fun text => (parse text mode).map fun script => { script := script, upvalue := env }

/-- `load(chunk, chunkname, mode, env)`. -/
def load (text : Text) (chunkname mode : Arg) (env : Upvalue) :
    Except String (Except String Chunk) :=
  (optString "load" 3 "bt" mode).bind fun mode =>
    (optString "load" 2 "chunk" chunkname).map fun _ =>
      (parse text mode).map fun script => { script := script, upvalue := env }

/-! ## The module -/

/-- The sandbox `env` of the module, and the globals of Lua. A global that is missing is `nil`. -/
structure Sandbox where
  env : String → Value
  globals : String → Value

/-- The module after it has been loaded. -/
def fresh (globals : String → Value) : Sandbox where
  env := fun g => if g = "require" then .require else .nil
  globals := globals

/-- A field of `env`, which may be a fallback. -/
def Sandbox.index (m : Sandbox) (g : String) : Value := fallback (m.env g)

/-- The way in which a call ends. -/
inductive Outcome
  | raised (err : String)
  | returned (v w : Value)

/-- `pcall(chunk)`. -/
def pcall (m : Sandbox) (chunk : Chunk) : Sandbox × Except String Unit :=
  match chunk.upvalue with
  | .sandbox =>
    let (env, result) := run fallback chunk.script m.env
    ({ m with env := env }, result)
  | .globals =>
    let (globals, result) := run id chunk.script m.globals
    ({ m with globals := globals }, result)

/-- The bodies of the functions of the module after the loader. -/
def inspectChunk (m : Sandbox) : Except String (Except String Chunk) → Sandbox × Outcome
  | .error err => (m, .raised err)
  | .ok (.error err) => (m, .returned .nil (.string err))
  | .ok (.ok chunk) =>
    match pcall m chunk with
    | (m, .error res) => (m, .returned .nil (.string res))
    | (m, .ok ()) => (m, .returned (m.index "inputs") (m.index "outputs"))

/-- `inspect_file`. -/
def inspectFile (m : Sandbox) (file : Except String Text) : Sandbox × Outcome :=
  inspectChunk m (loadfile file (.string "t") .sandbox)

/-- `inspect_string`. The second argument of `load` is the name of the chunk, and the third one is
its mode: the table is given in the place of the mode, and no table in its own place. -/
def inspectString (m : Sandbox) (code : Text) : Sandbox × Outcome :=
  inspectChunk m (load code (.string "t") .table .globals)

/-- A call of the module. -/
inductive Call
  | inspectFile (file : Except String Text)
  | inspectString (code : Text)

/-- One call. -/
def call (m : Sandbox) : Call → Sandbox × Outcome
  | .inspectFile file => inspectFile m file
  | .inspectString code => inspectString m code

/-- The module after a number of calls. -/
def after (globals : String → Value) (history : List Call) : Sandbox :=
  history.foldl (fun m c => (call m c).1) (fresh globals)

/-! ## Files -/

/-- The script is inspected as a file. -/
def asFile (script : Script) : Call := .inspectFile (.ok { parsed := .ok script })

/-- The script is inspected as a string. -/
def asString (script : Script) : Call := .inspectString { parsed := .ok script }

/-- A script in a file is run in the sandbox. -/
lemma call_asFile (m : Sandbox) (script : Script) :
    (call m (asFile script)).2 =
      match run fallback script m.env with
      | (_, .error err) => .returned .nil (.string err)
      | (env, .ok ()) => .returned (fallback (env "inputs")) (fallback (env "outputs")) := by
  show (inspectChunk m (.ok (.ok { script := script, upvalue := .sandbox }))).2 = _
  simp only [inspectChunk, pcall]
  cases run fallback script m.env with
  | mk env result =>
    cases result <;> rfl

/-- **Sandboxes that cannot be told apart**: a script gives the same result in both if it reads only
globals on which they agree or which it has assigned, and its `inputs` and `outputs` are among
these. -/
lemma call_asFile_congr {S : Set String} {script : Script} (hclosed : Closed S script)
    (hin : "inputs" ∈ S ∪ assigned script) (hout : "outputs" ∈ S ∪ assigned script)
    {m m' : Sandbox} (hm : SameOn fallback S m.env m'.env) :
    (call m (asFile script)).2 = (call m' (asFile script)).2 := by
  obtain ⟨hend, hsame⟩ := run_eqOn hclosed hm
  rw [call_asFile, call_asFile]
  revert hend hsame
  cases run fallback script m.env with
  | mk env result =>
    cases run fallback script m'.env with
    | mk env' result' =>
      intro hend hsame
      obtain rfl : result = result' := hend
      cases result with
      | error err => rfl
      | ok _ =>
        have hsame := hsame rfl
        exact congrArg₂ Outcome.returned (hsame hin) (hsame hout)

/-! ## Strings -/

/-- **A string is never inspected**: the mode of `load` is a table, which is an error, and the error
is raised. -/
theorem inspectString_eq (m : Sandbox) (code : Text) :
    inspectString m code =
      (m, .raised "bad argument #3 to 'load' (string expected, got table)") := rfl

/-- A file never raises an error. -/
lemma inspectFile_ne_raised (m : Sandbox) (file : Except String Text) (err : String) :
    (inspectFile m file).2 ≠ .raised err := by
  unfold inspectFile
  generalize hload : loadfile file (.string "t") .sandbox = loaded
  cases loaded with
  | error err => cases hload
  | ok result =>
    cases result with
    | error err => exact nofun
    | ok chunk =>
      simp only [inspectChunk]
      cases pcall m chunk with
      | mk m result => cases result <;> exact nofun

/-! ## Earlier scripts -/

/-- The globals that a call may assign. -/
def Call.assigns : Call → Set String
  | .inspectFile (.ok { parsed := .ok script, .. }) => assigned script
  | _ => ∅

/-- A call leaves the other globals of the sandbox alone. -/
lemma env_call_of_notMem {c : Call} {g : String} (hg : g ∉ c.assigns) (m : Sandbox) :
    (call m c).1.env g = m.env g := by
  cases c with
  | inspectString code => rfl
  | inspectFile file =>
    cases file with
    | error err => rfl
    | ok text =>
      obtain ⟨binary, parsed⟩ := text
      cases parsed with
      | error err => cases binary <;> rfl
      | ok script =>
        cases binary with
        | true => rfl
        | false =>
          have hrun : (run fallback script m.env).1 g = m.env g := run_of_notMem hg m.env
          show (inspectChunk m (.ok (.ok { script := script, upvalue := .sandbox }))).1.env g = _
          rw [← hrun]
          simp only [inspectChunk, pcall]
          cases run fallback script m.env with
          | mk env result => cases result <;> rfl

/-- Globals that no earlier call may have assigned are as in a fresh module. -/
lemma env_after_of_notMem {g : String} (globals : String → Value) {history : List Call}
    (hg : ∀ c ∈ history, g ∉ c.assigns) :
    (after globals history).env g = (fresh globals).env g := by
  rw [after]
  generalize fresh globals = m
  induction history generalizing m with
  | nil => rfl
  | cons c cs ih =>
    obtain ⟨hc, hcs⟩ := List.forall_mem_cons.mp hg
    exact (ih hcs _).trans (env_call_of_notMem hc m)

/-- **Scripts whose result is that of a fresh module**: those that read only globals, apart from
their own, which no earlier script assigns, with `inputs` and `outputs` that are read in this
sense. -/
theorem inspectFile_eq_of_closed {S : Set String} {script : Script} (hclosed : Closed S script)
    (hin : "inputs" ∈ S ∪ assigned script) (hout : "outputs" ∈ S ∪ assigned script)
    (globals : String → Value) {history : List Call}
    (hhistory : ∀ g ∈ S, ∀ c ∈ history, g ∉ c.assigns) :
    (call (after globals history) (asFile script)).2 =
      (call (fresh globals) (asFile script)).2 := by
  apply call_asFile_congr hclosed hin hout
  intro g hg
  exact congrArg fallback (env_after_of_notMem globals (hhistory g hg))

/-- The script `inputs = require("aelkey").devices; outputs = inputs` reads one global of the
sandbox. -/
example (other : Value → Value → Except String Value) :
    Closed {"require"}
      [ assignOne "inputs" <|
          ((Expr.global "require").call (fun _ => .ok (.string "aelkey")) other).index
            (fun _ => .ok (.string "devices")) other,
        assignOne "outputs" (.global "inputs") ] := by
  refine ⟨dependsOn_assignOne ?_ _, dependsOn_assignOne ?_ _, trivial⟩
  · apply dependsOn_index
    · exact dependsOn_call (dependsOn_global _) (fun _ _ _ => rfl) other
    · exact fun _ _ _ => rfl
  · exact (dependsOn_global "inputs").mono (by simp [assignOne])

/-- **Only the script matters** for its result: it is that of a fresh module after any history, from
a file and from a string, and the same from both. -/
structure OnlyScriptMatters (globals : String → Value) (history : List Call) (script : Script) :
    Prop where
  file : (call (after globals history) (asFile script)).2 =
    (call (fresh globals) (asFile script)).2
  string : (call (after globals history) (asString script)).2 =
    (call (fresh globals) (asString script)).2
  same : (call (after globals history) (asFile script)).2 =
    (call (after globals history) (asString script)).2

/-- A script that returns what a global reads as. -/
lemma call_asFile_global (m : Sandbox) (g : String) :
    (call m (asFile [assignOne "inputs" (.global g)])).2 =
      .returned (m.index g) (m.index "outputs") := by
  rw [call_asFile]
  show Outcome.returned (fallback (fallback (m.env g))) _ = _
  rw [fallback_fallback]
  rfl

/-- **What a history does to scripts.** After no history do the results depend on the script only, as
a string is never inspected. As to files, a history makes no difference to any script iff it leaves
every global of the sandbox as it reads in a fresh module. -/
theorem onlyScriptMatters_never (globals : String → Value) (history : List Call) :
    (∀ script, ¬ OnlyScriptMatters globals history script) ∧
      ((∀ script, (call (after globals history) (asFile script)).2 =
          (call (fresh globals) (asFile script)).2) ↔
        ∀ g, (after globals history).index g = (fresh globals).index g) := by
  refine ⟨fun script h => ?_, fun h g => ?_, fun h script => ?_⟩
  · exact inspectFile_ne_raised _ _ _ h.same
  · have hg := h [assignOne "inputs" (.global g)]
    rw [call_asFile_global, call_asFile_global] at hg
    exact (Outcome.returned.inj hg).1
  · exact call_asFile_congr (closed_univ script) (.inl trivial) (.inl trivial) fun g _ => h g

/-- Not even the first script has the same result from a file and a string. The `inputs` of an
earlier file are those of a later one that has none. -/
theorem not_onlyScriptMatters_inputs :
    ¬ OnlyScriptMatters (fun _ => .nil) [] [assignOne "inputs" fun _ => .ok (.number 1)] ∧
      ¬ OnlyScriptMatters (fun _ => .nil)
        [asFile [assignOne "inputs" fun _ => .ok (.number 1)]]
        [assignOne "outputs" fun _ => .ok (.number 2)] := by
  constructor
  · intro h
    cases h.same
  · intro h
    cases h.file

end Aelkey.Daemon
