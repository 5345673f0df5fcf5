import TerraLint.Ignore
import TerraLint.Protocol.Server

/-!
# Analyses are independent

A process loads its ignore configuration once and then answers the lines of its input, each of
which arrives while files on disk have some sizes. A server only remembers the rules it was last
configured with, so that whatever was asked before the last configuration, and whatever else was
asked since, has no effect on what it finds in a document.

* `Server.handle_eq`: a request of a known type is answered, and only one that configures the
  server changes it.
* `Server.answers_known`: what is left of a server after lines of known types.
* `Server.process_analysis`: the diagnostics of a document in a run are those that a fresh process
  finds after the last configuration alone.
-/

namespace TerraLint

/-- A line of the input, and the sizes of the files on disk when it arrives. -/
structure Arrival where
  line : List Char
  /-- The number of bytes of the file at a path, if there is one. -/
  sizeOf : String → Option Nat

namespace Server

/-- The types of the requests that a server answers. -/
def requestTypes : List String :=
  ["initialize", "shutdown", "getDefaultConfig", "getCapabilities", "preprocessFiles",
    "analyzeFile"]

/-- A line is a request of a type. -/
def Asks (line : List Char) (type : String) : Prop :=
  (Request.parse? line).map Request.type = some type
deriving Decidable

/-- A line is a request of a type that a server answers. -/
def Known (line : List Char) : Prop :=
  ∃ type ∈ (Request.parse? line).map Request.type, type ∈ requestTypes
deriving Decidable

/-- The answers to lines as they arrive, and whether all of them were answered. -/
def answers (workDir : String) (filter : IgnoreFilter) : Server → List Arrival → List Message × Bool
  | _, [] => ([], true)
  | server, a :: arrivals =>
    match server.step ⟨workDir, filter, a.sizeOf⟩ a.line with
    | none => ([], false)
    | some (server, messages) =>
      let (later, finished) := answers workDir filter server arrivals
      (messages ++ later, finished)

/-- What a process sends that finds an ignore configuration at a path, and whether it answered all
lines. -/
def process (workDir path : String) (found : ConfigFile) (arrivals : List Arrival) :
    Except LintError (List Message × Bool) :=
  (IgnoreFilter.load Rule.names path found).map fun filter =>
    answers workDir filter start arrivals

/-- The server after a request: a configuration takes the place of an earlier one. -/
def after (server : Server) (request : Request) : Server :=
  if request.type = "initialize" then ⟨some (configuredBy request.payload)⟩ else server

/-- The server after lines that arrive. -/
def afterAll (server : Server) (arrivals : List Arrival) : Server :=
  (arrivals.filterMap fun a => Request.parse? a.line).foldl after server

/-- Where the files on disk do not change, lines are answered as those of one host. -/
theorem answers_eq_serve (host : Host) (server : Server) (lines : List (List Char)) :
    answers host.workDir host.filter server (lines.map fun line => ⟨line, host.sizeOf⟩) =
      serve host server lines := by
  induction lines generalizing server with
  | nil => rfl
  | cons line lines ih =>
    simp only [List.map_cons, answers, serve]
    cases server.step host line with
    | none => rfl
    | some next => simp [ih]

section Step

variable (host : Host) (server : Server) {request : Request}

/-- A request of a known type is answered, and only a configuration changes the server. -/
theorem handle_eq (known : request.type ∈ requestTypes) :
    ∃ messages, handle host server request = some (server.after request, messages) := by
  obtain ⟨type, id, payload⟩ := request
  simp only [requestTypes, List.mem_cons, List.not_mem_nil, or_false] at known
  obtain rfl | rfl | rfl | rfl | rfl | rfl := known
  case inr.inr.inr.inr.inr =>
    -- only the answer to an analysis depends on whether the server was configured
    cases h : server.configured <;> simp [handle, after, h]
  all_goals simp [handle, after]

/-- A configured server sends what is wrong in a document and then says that all went well. -/
theorem handle_analysis {server : Server} {configured : List String}
    (asked : request.type = "analyzeFile") (ready : server.configured = some configured) :
    handle host server request =
      some (server,
        [.event "diagnostics" (analysis host configured (textField request.payload "uri")
          (textField request.payload "content")),
         .response "analyzeFile" request.id ok]) := by
  obtain ⟨type, id, payload⟩ := request
  obtain rfl : type = "analyzeFile" := asked
  simp [handle, ready]

/-- A server that is configured says that all went well. -/
theorem handle_configuration (asked : request.type = "initialize") :
    handle host server request =
      some (⟨some (configuredBy request.payload)⟩, [.response "initialize" request.id ok]) := by
  obtain ⟨type, id, payload⟩ := request
  obtain rfl : type = "initialize" := asked
  simp [handle]

end Step

/-- A line of a type is a request of it. -/
theorem exists_of_asks {line : List Char} {type : String} (h : Asks line type) :
    ∃ request, Request.parse? line = some request ∧ request.type = type :=
  Option.map_eq_some_iff.1 h

section Run

variable {workDir : String} {filter : IgnoreFilter} {server : Server} {a : Arrival}
  {arrivals : List Arrival}

theorem answers_cons {next : Server} {messages : List Message}
    (h : server.step ⟨workDir, filter, a.sizeOf⟩ a.line = some (next, messages)) :
    answers workDir filter server (a :: arrivals) =
      (messages ++ (answers workDir filter next arrivals).1,
        (answers workDir filter next arrivals).2) := by
  simp [answers, h]

/-- Lines of known types are all answered, and the lines after them are answered by the server that
they leave. -/
theorem answers_known (workDir : String) (filter : IgnoreFilter) (server : Server)
    {earlier : List Arrival} (known : ∀ a ∈ earlier, Known a.line) :
    ∃ messages, ∀ later, answers workDir filter server (earlier ++ later) =
      (messages ++ (answers workDir filter (server.afterAll earlier) later).1,
        (answers workDir filter (server.afterAll earlier) later).2) := by
  induction earlier generalizing server with
  | nil => exact ⟨[], fun later => rfl⟩
  | cons a earlier ih =>
    obtain ⟨ha, known⟩ := List.forall_mem_cons.1 known
    obtain ⟨type, asks, htype⟩ := ha
    obtain ⟨request, hread, rfl⟩ := exists_of_asks asks
    obtain ⟨first, hfirst⟩ := handle_eq ⟨workDir, filter, a.sizeOf⟩ server htype
    obtain ⟨rest, hrest⟩ := ih (server.after request) known
    refine ⟨first ++ rest, fun later => ?_⟩
    have hstep : server.step ⟨workDir, filter, a.sizeOf⟩ a.line =
        some (server.after request, first) := by simp [step, hread, hfirst]
    have hafter : server.afterAll (a :: earlier) = (server.after request).afterAll earlier := by
      simp [afterAll, hread]
    rw [List.cons_append, answers_cons hstep, hrest later, hafter, List.append_assoc]

/-- Lines that do not configure a server leave it as it is. -/
theorem afterAll_of_not_asks (h : ∀ a ∈ arrivals, ¬ Asks a.line "initialize") :
    server.afterAll arrivals = server := by
  induction arrivals with
  | nil => rfl
  | cons a arrivals ih =>
    obtain ⟨ha, h⟩ := List.forall_mem_cons.1 h
    cases hread : Request.parse? a.line with
    | none => simpa [afterAll, hread] using ih h
    | some request =>
      have other : request.type ≠ "initialize" := by simpa [Asks, hread] using ha
      simpa [afterAll, hread, after, other] using ih h

/-- A server remembers what it was last configured with. -/
theorem afterAll_of_last {before between : List Arrival} {init : Arrival} {request : Request}
    (hread : Request.parse? init.line = some request) (asked : request.type = "initialize")
    (quiet : ∀ a ∈ between, ¬ Asks a.line "initialize") :
    server.afterAll (before ++ init :: between) = ⟨some (configuredBy request.payload)⟩ := by
  have split : server.afterAll (before ++ init :: between) =
      ((server.afterAll before).after request).afterAll between := by
    simp [afterAll, hread]
  rw [split, afterAll_of_not_asks quiet, after, if_pos asked]

end Run

/-- Analyses do not influence each other: in a run over lines of known types, the answers to an
analysis after a configuration are those of a fresh process that is only configured as the server
was last configured, whatever the files on disk are. -/
theorem process_analysis (workDir path : String) (found : ConfigFile)
    (before between after : List Arrival) (init request : Arrival)
    (loads : (IgnoreFilter.load Rule.names path found).isOk)
    (known : ∀ a ∈ before ++ init :: between ++ request :: after, Known a.line)
    (configures : Asks init.line "initialize")
    (quiet : ∀ a ∈ between, ¬ Asks a.line "initialize")
    (analyzes : Asks request.line "analyzeFile") :
    ∃ earlier later greeting diagnostics done,
      process workDir path found (before ++ init :: between) = .ok (earlier, true) ∧
      process workDir path found (before ++ init :: between ++ request :: after) =
        .ok (earlier ++ .event "diagnostics" diagnostics :: done :: later, true) ∧
      ∀ init' request', init'.line = init.line → request'.line = request.line →
        process workDir path found [init', request'] =
          .ok ([greeting, .event "diagnostics" diagnostics, done], true) := by
  obtain ⟨filter, hfilter⟩ : ∃ filter, IgnoreFilter.load Rule.names path found = .ok filter := by
    cases h : IgnoreFilter.load Rule.names path found with
    | ok filter => exact ⟨filter, rfl⟩
    | error e => simp [h, Except.isOk, Except.toBool] at loads
  obtain ⟨config, hconfig, asked⟩ := exists_of_asks configures
  obtain ⟨document, hdocument, wanted⟩ := exists_of_asks analyzes
  have knownBefore : ∀ a ∈ before ++ init :: between, Known a.line :=
    fun a ha => known a (List.mem_append_left _ ha)
  have knownAfter : ∀ a ∈ after, Known a.line :=
    fun a ha => known a (List.mem_append_right _ (List.mem_cons_of_mem _ ha))
  let ready : Server := ⟨some (configuredBy config.payload)⟩
  obtain ⟨earlier, hearlier⟩ := answers_known workDir filter start knownBefore
  obtain ⟨later, hlater⟩ := answers_known workDir filter ready knownAfter
  have hready : start.afterAll (before ++ init :: between) = ready :=
    afterAll_of_last hconfig asked quiet
  let wrong : Json := analysis ⟨workDir, filter, request.sizeOf⟩ (configuredBy config.payload)
    (textField document.payload "uri") (textField document.payload "content")
  -- the answers to the two lines that matter do not depend on the sizes of files
  have configuring : ∀ sizes, start.step ⟨workDir, filter, sizes⟩ init.line =
      some (ready, [.response "initialize" config.id ok]) := fun sizes => by
    rw [step, hconfig]
    exact handle_configuration _ _ asked
  have analyzing : ∀ sizes, ready.step ⟨workDir, filter, sizes⟩ request.line =
      some (ready, [.event "diagnostics" wrong, .response "analyzeFile" document.id ok]) :=
      fun sizes => by
    rw [step, hdocument]
    exact handle_analysis _ wanted rfl
  refine ⟨earlier, later, .response "initialize" config.id ok, wrong,
    .response "analyzeFile" document.id ok, ?_, ?_,
    fun init' request' hinit hrequest => ?_⟩
  · have h := hearlier []
    simp only [List.append_nil, answers] at h
    simp [process, hfilter, Except.map, h]
  · have h := hearlier (request :: after)
    have h' := hlater []
    simp only [List.append_nil, answers] at h'
    rw [hready, answers_cons (analyzing request.sizeOf), h'] at h
    simpa [process, hfilter, Except.map] using h
  · simp only [process, hfilter, Except.map]
    have first := configuring init'.sizeOf
    have second := analyzing request'.sizeOf
    rw [← hinit] at first
    rw [← hrequest] at second
    rw [answers_cons first, answers_cons second]
    rfl

/-- A request of a type with a payload. -/
def requestLine (type payload : String) : List Char :=
  ("\x7b\"v\": 1, \"kind\": \"req\", \"type\": \"" ++ type ++ "\", \"id\": \"7\", \"payload\": " ++
    payload ++ "\x7d\n").toList

/-- A request to check a document whose variables are out of order. -/
def unorderedDocument : Arrival where
  line := requestLine "analyzeFile" ("\x7b\"uri\": \"file:///w/a.tf\", \"content\": " ++
    "\"variable \\\"b\\\" \x7b\x7d\\nvariable \\\"a\\\" \x7b\x7d\\n\"\x7d")
  sizeOf := fun _ => none

/-- A request that names the rules that are checked. -/
def orderConfiguration : Arrival where
  line := requestLine "initialize"
    "\x7b\"rulesetConfig\": \x7b\"terraform_variable_order\": \"warn\"\x7d\x7d"
  sizeOf := fun _ => none

/-- A request without a payload. -/
def plainRequest (type : String) : Arrival := ⟨requestLine type "null", fun _ => some 3⟩

/-- An ignore configuration. -/
def modulesIgnored : ConfigFile := .bytes "ignore \x7b patterns = [\"^modules/\"] \x7d\n".toUTF8

/-- A document is checked before all rules are configured, before one rule is, and twice after. -/
theorem process_analysis_twice :
    ∃ earlier later greeting diagnostics done,
      process "/w" "ignore" modulesIgnored
          [unorderedDocument, plainRequest "initialize", unorderedDocument, orderConfiguration,
            unorderedDocument, plainRequest "getCapabilities"] = .ok (earlier, true) ∧
      process "/w" "ignore" modulesIgnored
          [unorderedDocument, plainRequest "initialize", unorderedDocument, orderConfiguration,
            unorderedDocument, plainRequest "getCapabilities", unorderedDocument,
            plainRequest "shutdown"] =
        .ok (earlier ++ .event "diagnostics" diagnostics :: done :: later, true) ∧
      process "/w" "ignore" modulesIgnored [orderConfiguration, unorderedDocument] =
        .ok ([greeting, .event "diagnostics" diagnostics, done], true) := by
  obtain ⟨earlier, later, greeting, diagnostics, done, hprefix, hrun, hfresh⟩ :=
    process_analysis "/w" "ignore" modulesIgnored
      [unorderedDocument, plainRequest "initialize", unorderedDocument]
      [unorderedDocument, plainRequest "getCapabilities"] [plainRequest "shutdown"]
      orderConfiguration unorderedDocument (by decide +kernel) (by decide +kernel)
      (by decide +kernel) (by decide +kernel) (by decide +kernel)
  exact ⟨earlier, later, greeting, diagnostics, done, hprefix, hrun,
    hfresh orderConfiguration unorderedDocument rfl rfl⟩

end Server

end TerraLint
