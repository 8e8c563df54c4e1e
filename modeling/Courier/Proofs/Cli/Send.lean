import Courier.Platform.Plain
import Courier.Proofs.Charset.Points
import Courier.Proofs.Cli.Order
import Courier.Proofs.Machine.Aside

/-!
# What the send command does

The command sends nothing unless there is nothing wrong with what the command line asks for. If anything is
wrong, it ends as called wrongly, and nothing but notes is left on the machine. If nothing is, the request
that the command line describes is sent, once, and what comes of that is told (`Cli.Send.conclude`): the
status of the command and what it prints are a function of it. Main statement: `Cli.run_send`.
-/

namespace Courier

/-! ## Opening a client -/

/-- `Client.start` writes notes, and changes nothing else of the machine. -/
theorem Client.start_noted [Platform] {config : Config} {client : Client} {m m' : Machine}
    (h : start config m = .ok client m') : ∃ journal, m' = { m with journal } := by
  obtain ⟨_, _, hset, h⟩ := Act.bind_eq_ok.mp h
  obtain ⟨_, _, hlog, h⟩ := Act.bind_eq_ok.mp h
  obtain ⟨_, _, hlog', h⟩ := Act.bind_eq_ok.mp h
  obtain ⟨_, _, hcheck, h⟩ := Act.bind_eq_ok.mp h
  obtain ⟨_, _, hlog'', h⟩ := Act.bind_eq_ok.mp h
  obtain ⟨-, rfl⟩ := Act.ofExcept_eq_ok.mp hcheck
  cases hset
  cases hlog
  cases hlog'
  cases hlog''
  cases h
  exact ⟨_, rfl⟩

/-- The settings are read without the machine, and then it is `Client.start` (`start_noted`). -/
theorem Client.startFrom_noted [Platform] {environment : Variables} {overrides : List (String × SettingValue)}
    {client : Client} {m m' : Machine} (h : startFrom environment overrides m = .ok client m') :
    ∃ journal, m' = { m with journal } := by
  unfold startFrom at h
  cases hconfig : Config.fromCall environment overrides with
  | ok config =>
    rw [hconfig] at h
    exact start_noted h
  | error fault =>
    rw [hconfig] at h
    cases h

/-! ## Reading the text of a response -/

/-- To read a text is to decode it and, where that fails, to note it. -/
theorem Response.readText_keeps [Platform] {τ : Type} {part : Machine → τ} (hpart : Machine.Aside part)
    (r : Response) : Keeps part r.readText := by
  unfold readText
  split
  · exact .pure _
  · split
    · exact .pure _
    · split
      · exact (hpart.log _ _).bind fun _ => .pure _
      · exact .throw _

namespace Cli

/-- `Shell.run` looks at nothing of a part of a command but what it does on a console. -/
theorem Shell.run_congr {x y : Shell Unit} {m m' : Machine}
    (h : x { machine := m } = y { machine := m' }) : x.run m = y.run m' := by
  unfold Shell.run
  rw [h]

namespace Send

/-! ## Before the request -/

/-- A method is named by its name in any case; no two names differ in no more than that. -/
theorem methodOf_named {word : String} {method : Method}
    (h : Text.foldAscii method.name = Text.foldAscii word) : methodOf word = pure method := by
  unfold methodOf
  rw [← h]
  cases method <;> rfl

/-- A command line is taken apart, does not ask for help, and names a method and an address. -/
structure Parses (arguments : List String) (a : Arguments Key) (method : Method) (url : String) : Prop where
  parts : takeApart specs true none arguments = .ok a
  noHelp : ∀ option ∈ a.options, option.1 ≠ .help
  others : ∃ word, a.others = [word, url] ∧ Text.foldAscii method.name = Text.foldAscii word

variable {arguments : List String} {a : Arguments Key} {method : Method} {url : String} {m : Machine}

/-- `orderOf` of a line that parses is `Order.ofArguments` of its parts. -/
theorem Parses.orderOf (h : Parses arguments a method url) :
    orderOf a = pure (Order.ofArguments a method url) := by
  obtain ⟨word, hothers, hmethod⟩ := h.others
  unfold Send.orderOf
  rw [hothers]
  simp only [methodOf_named hmethod, pure_bind]
  rfl

/-- `Send.run` on a line that parses is `carryOut` on its order, by `Parses.orderOf`. -/
theorem Parses.run [Platform] {environment : Variables} (h : Parses arguments a method url) :
    Send.run environment arguments = carryOut environment (.ofArguments a method url) := by
  have hnohelp : (a.options.any fun option => option.1 = .help) = false := by
    simpa [List.any_eq_false] using h.noHelp
  unfold Send.run
  rw [h.parts]
  simp only [hnohelp, Bool.false_eq_true, if_false, h.orderOf, pure_bind]

/-! ## After the request -/

section

variable [Platform]

/-- The line that tells the status of a response. -/
def statusLine (response : Response) : String :=
  plain (Text.numeral response.status ++ " " ++ response.reason) ++ "\n"

/-- How the command ends, given what came of sending the request. A text that halves of surrogate pairs keep
from being printed is a failure. -/
def conclude : EStateM.Result Failure Session Response → Result
  | .ok response s =>
    match response.readText s.machine with
    | .ok (points, _) m =>
      match asString points with
      | .ok text =>
        { status := 0, err := "", machine := m,
          out := statusLine response ++ if text = "" then "" else plain text ++ "\n" }
      | .error failure =>
        { status := 1, out := statusLine response, err := "", failure := some failure, machine := m }
    | .error failure m =>
      { status := 1, out := statusLine response, err := "", failure := some failure, machine := m }
  | .error failure s =>
    match failure with
    | .requestFailed .. =>
      { status := 1, out := "", err := plain ("❌ " ++ failure.message) ++ "\n",
        machine := { s.machine with journal := s.machine.journal.add .debug "request failed" } }
    | _ => { status := 1, out := "", err := "", failure := some failure, machine := s.machine }

/-- Prints a text, if there is one. -/
def sayText (points : List CodePoint) : Shell Unit := do
  if !points.isEmpty then
    let text ← Shell.onMachine (Act.ofExcept (asString points))
    Shell.say text

omit [Platform] in
/-- Code points that are no text are not printed; the failure ends the command. -/
theorem sayText_run (points : List CodePoint) (c : Console) :
    sayText points c =
      match asString points with
      | .ok text => .ok () { c with out := c.out ++ if text = "" then "" else plain text ++ "\n" }
      | .error failure => .error (.failure failure) c := by
  cases points with
  | nil =>
    have hempty : asString [] = .ok "" := rfl
    simp only [hempty, if_true, String.append_empty]
    rfl
  | cons p rest =>
    -- an empty text is never converted; any other may hold a surrogate
    show (Shell.onMachine (Act.ofExcept (asString (p :: rest))) >>= Shell.say) c = _
    cases htext : asString (p :: rest) with
    | error failure => rfl
    | ok text =>
      have hne : text ≠ "" := by
        rintro rfl
        cases asString_ok_iff.mp htext
      simp only [if_neg hne, ← String.append_assoc]
      rfl

/-- Prints the status of a response, and its text if there is one. -/
def tell (response : Response) : Shell Unit := do
  Shell.say (Text.numeral response.status ++ " " ++ response.reason)
  let (points, _) ← Shell.onMachine response.readText
  sayText points

/-- Sends the request and tells what came of it. -/
def finish (client : Client) (request : Request) : Shell Unit := do
  let response ← execute client request
  tell response

/-- The line with the status is on the console before the text is read. -/
theorem tell_line (response : Response) (m : Machine) :
    tell response { machine := m } = (do
      let (points, _) ← Shell.onMachine response.readText
      sayText points) { machine := m, out := statusLine response } := by
  have hsay : Shell.say (Text.numeral response.status ++ " " ++ response.reason) { machine := m } =
      .ok () { machine := m, out := statusLine response } := rfl
  exact Act.bind_run_ok hsay

/-- Status line and text are what `conclude` tells of a response. By cases on whether the text is read, and
whether it can be printed (`sayText_run`). -/
theorem tell_run (response : Response) (s : Session) :
    (tell response).run s.machine = conclude (.ok response s) := by
  unfold Shell.run
  rw [tell_line]
  cases hread : response.readText s.machine with
  | ok answer m =>
    obtain ⟨points, response'⟩ := answer
    rw [Act.bind_run_ok (Shell.onMachine_ok hread)]
    simp only [conclude, hread, sayText_run]
    cases asString points <;> rfl
  | error failure m =>
    rw [Act.bind_run_error (Shell.onMachine_error hread)]
    simp only [conclude, hread]

/-- `giveUp` explains the failure of a request, and lets the others through. -/
theorem giveUp_run (failure : Failure) (s : Session) :
    (giveUp failure : Shell Unit).run s.machine = conclude (.error failure s) := by
  cases failure <;> rfl

omit [Platform] in
/-- What comes after `giveUp` does not happen. -/
theorem giveUp_bind {α β : Type} (failure : Failure) (next : α → Shell β) :
    giveUp failure >>= next = giveUp failure := by
  cases failure <;> rfl

/-- **How the command ends is a function of what came of the request.** By cases on `Session.execute`: a
response is told (`tell_run`), a failure of the request is explained and others go through (`giveUp_run`). -/
theorem finish_run (client : Client) (request : Request) (m : Machine) :
    (finish client request).run m = conclude (Session.execute .direct ⟨client, request, m⟩) := by
  cases hdone : Session.execute .direct ⟨client, request, m⟩ with
  | ok response s =>
    have hexecute : execute client request { machine := m } =
        .ok response { machine := s.machine } := by
      unfold execute
      rw [hdone]
    rw [← tell_run]
    exact Shell.run_congr (Act.bind_run_ok hexecute)
  | error failure s =>
    have hexecute : execute client request { machine := m } =
        giveUp failure { machine := s.machine } := by
      unfold execute
      rw [hdone]
    -- a failed request has no response to tell: `giveUp` ends the command
    have hfinish : finish client request { machine := m } =
        (giveUp failure >>= tell) { machine := s.machine } := by
      show EStateM.bind (execute client request) tell { machine := m } = _
      unfold EStateM.bind
      rw [hexecute]
      rfl
    rw [giveUp_bind] at hfinish
    rw [← giveUp_run]
    exact Shell.run_congr hfinish

/-- `conclude` keeps what was sent and what was still to come: `Response.readText` and what is printed are
aside (`Response.readText_keeps`). -/
theorem conclude_wire (done : EStateM.Result Failure Session Response) :
    (conclude done).machine.wire = (stateAfter done).machine.wire := by
  cases done with
  | ok response s =>
    have hkeeps := response.readText_keeps Machine.aside_wire s.machine
    simp only [conclude]
    cases hread : response.readText s.machine with
    | ok answer m =>
      rw [hread] at hkeeps
      obtain ⟨points, response'⟩ := answer
      simp only
      cases asString points <;> exact hkeeps
    | error failure m =>
      rw [hread] at hkeeps
      exact hkeeps
  | error failure s => cases failure <;> rfl

/-- `carryOut` is `requestOf` and then `finish`. -/
theorem carryOut_eq (environment : Variables) (o : Order) :
    carryOut environment o = (do
      let client ← Shell.onMachine (Client.startFrom environment
        [("debug", if o.verbose then .bool true else .null)])
      let request ← requestOf client o
      finish client request) := rfl

end

end Send

/-! ## The command -/

section

variable [Platform]

/-- `Program.run` leads to `Send.run` by the word that names the command. -/
theorem program_send (environment : Variables) (arguments : List String) :
    program environment (sendName :: arguments) = Send.run environment arguments := by
  have hparse : takeApart specs false none (sendName :: arguments) =
      .ok { others := sendName :: arguments } := rfl
  unfold program
  rw [hparse]
  rfl

variable {environment : Variables} {arguments : List String} {machine started : Machine}
  {a : Arguments Send.Key} {method : Method} {url : String} {client : Client}

/-- On a line that parses, a client is opened, the options are looked at (`requestOf`), and the request is
sent (`finish`). -/
theorem program_parsed (hparse : Send.Parses arguments a method url)
    (hclient : Client.startFrom environment
      [("debug", if a.options.any (fun option => option.1 = .verbose) then .bool true else .null)] machine =
      .ok client started) :
    program environment (sendName :: arguments) { machine } =
      (Send.requestOf client (.ofArguments a method url) >>= Send.finish client) { machine := started } := by
  rw [program_send, hparse.run, Send.carryOut_eq]
  exact Act.bind_run_ok (Shell.onMachine_ok hclient)

/-- **The command sends all that it is given, or nothing.** A command line that can be taken apart is read as
`Order.ofArguments` says. If anything is wrong with it (`Order.Fault`), wherever that stands, the command ends
with status 2 and leaves nothing but notes in the journal. If nothing is, one request is sent, which is
`Order.request` of the command line: its method, address, headers, parameters, text, types, charset and files;
and the command ends as `conclude` says of what came of that. By `requestOf_decides`, which takes the options one
after the other. -/
theorem run_send (hparse : Send.Parses arguments a method url)
    (hclient : Client.startFrom environment
      [("debug", if a.options.any (fun option => option.1 = .verbose) then .bool true else .null)] machine =
      .ok client started)
    (hlook : (Send.Order.ofArguments a method url).Lookable machine.files) :
    let order := Send.Order.ofArguments a method url
    let result := run environment (sendName :: arguments) machine
    (order.Fault machine.files →
      result.status = 2 ∧ result.out = "" ∧ ∃ journal, result.machine = { machine with journal }) ∧
    (¬ order.Fault machine.files →
      ∃ headers params files journal,
        List.Forall₂ (Splits ':') (Send.valuesOf a .header) headers ∧
        List.Forall₂ (Splits '=') (Send.valuesOf a .param) params ∧
        List.Forall₂ (Splits '=') (Send.valuesOf a .file) files ∧
        let done := Session.execute .direct
          ⟨client, order.request client.config headers params files, { machine with journal }⟩
        result = Send.conclude done ∧ result.machine.wire = (stateAfter done).machine.wire ∧
        (∀ failure s, done = .error failure s → result.status = 1) ∧
        (∀ response s text kept m, done = .ok response s →
          response.readText s.machine = .ok (CodePoint.ofString text, kept) m → result.status = 0)) := by
  intro order result
  have hrun := program_parsed hparse hclient
  obtain ⟨journal, rfl⟩ := Client.startFrom_noted hclient
  have hdecides := Send.requestOf_decides client order { machine := { machine with journal } } hlook
  rcases hdecides with ⟨hfault, usage, message, journal', hrequest⟩ |
    ⟨hgood, r, journal', ⟨headers, params, files, hheaders, hparams, hfiles, rfl⟩, hrequest⟩
  · -- the fault ends the command before there is a request to send
    refine ⟨fun _ => ?_, fun hgood => absurd hfault hgood⟩
    have hresult : program environment (sendName :: arguments) { machine } =
        .error (.misuse usage message) { machine := { machine with journal := journal' } } :=
      hrun.trans (Act.bind_run_error hrequest)
    unfold result run Shell.run
    rw [hresult]
    exact ⟨rfl, rfl, journal', rfl⟩
  · -- what is left of the command is to send the request and to tell what came of it
    refine ⟨fun hfault => absurd hfault hgood, fun _ => ?_⟩
    have hfinish : result = Send.conclude (Session.execute .direct
        ⟨client, order.request client.config headers params files, { machine with journal := journal' }⟩) :=
      (Shell.run_congr (hrun.trans (Act.bind_run_ok hrequest))).trans (Send.finish_run ..)
    refine ⟨headers, params, files, journal', hheaders, hparams, hfiles, hfinish, ?_, ?_, ?_⟩
    · rw [hfinish]
      exact Send.conclude_wire _
    · intro failure s hdone
      rw [hfinish, hdone]
      cases failure <;> rfl
    · intro response s text kept m hdone hread
      rw [hfinish, hdone]
      simp only [Send.conclude, hread, asString_ofString]

end

/-! A command line with each of the options that fill a request. -/

/-- A directory with one file in it. -/
def lineFiles : FileSystem := { home := [], nodes := [(["a.txt"], .file [1, 2, 3])] }

/-- A parameter whose value holds the separator, a file with its type, a text that is then replaced, and a
charset, among which stands a header with white space around its name and its value. -/
def fullLine : List String :=
  ["post", "-b", "old", "-p", "a=b=c", "-H", " X-Id : 1 ", "--charset", "latin-1", "http://localhost/",
    "-f", "doc=a.txt", "--file-mime", "text/x-doc", "-b", "new", "--body-mime", "text/x-note"]

/-- The parts of that line. -/
def fullParts : Arguments Send.Key :=
  { options := [(.body, some "old"), (.param, some "a=b=c"), (.header, some " X-Id : 1 "),
      (.charset, some "latin-1"), (.file, some "doc=a.txt"), (.fileMime, some "text/x-doc"),
      (.body, some "new"), (.bodyMime, some "text/x-note")]
    others := ["post", "http://localhost/"] }

/-- The request that it describes. -/
def fullRequest (config : Config) : Request where
  method := .post
  url := "http://localhost/"
  headers := [("X-Id", "1")]
  body := some {
    charset := "latin-1", sniffBytes := config.sniffBytes, text := some "new", textType := "text/x-note"
    parameters := [⟨"a", some "b=c"⟩]
    files := [⟨some "doc", "a.txt", .onDisk (.ofText "a.txt"), some "text/x-doc"⟩] }

theorem splits_header : Splits ':' " X-Id : 1 " ("X-Id", " 1 ") :=
  ⟨" X-Id ".toList, by decide, by decide, by decide +kernel, by decide⟩

theorem splits_param : Splits '=' "a=b=c" ("a", "b=c") :=
  ⟨['a'], by decide, by decide, by decide, by decide⟩

theorem splits_file : Splits '=' "doc=a.txt" ("doc", "a.txt") :=
  ⟨"doc".toList, by decide, by decide, by decide, by decide⟩

/-- The charset of the line is one that is known, and its path is one of this directory. -/
theorem fullParts_lookable : (Send.Order.ofArguments fullParts .post "http://localhost/").Lookable lineFiles where
  charset := by
    rintro name hname
    replace hname : some "latin-1" = some name := hname
    cases hname
    have hlookup : Codec.lookup "latin-1" = .ok .latin1 := rfl
    rw [hlookup]
    nofun
  file := by
    intro value hmem p hp
    obtain rfl := List.mem_singleton.mp hmem
    rw [hp.unique splits_file]
    exact ⟨true, rfl⟩

/-- By cases on `Fault`: none of its conditions holds of the line. What its pairs are is told by
`Splits.unique`. -/
theorem fullParts_faultless :
    ¬ (Send.Order.ofArguments fullParts .post "http://localhost/").Fault lineFiles := by
  intro hfault
  cases hfault with
  | header hmem hbad =>
    rw [List.mem_singleton.mp hmem] at hbad
    exact splits_header.not_malformed hbad
  | bodiless hmethod hgiven => cases hmethod
  | charset hname hrefused =>
    replace hname : some "latin-1" = some _ := hname
    cases hname
    rcases hrefused with hmethod | hunknown
    · cases hmethod
    · exact hunknown .latin1 rfl
  | param hmem hbad =>
    rw [List.mem_singleton.mp hmem] at hbad
    exact splits_param.not_malformed hbad
  | file hmem hbad =>
    rw [List.mem_singleton.mp hmem] at hbad
    rcases hbad with hbad | ⟨p, hp, hgone⟩
    · exact splits_file.not_malformed hbad
    · rw [hp.unique splits_file] at hgone
      exact hgone rfl

/-- `run_send` at that line, which is sent; with a parameter that has no name it is not. -/
theorem run_send_full :
    (∃ client journal, run [] (sendName :: fullLine) { files := lineFiles } =
      Send.conclude (Session.execute .direct
        ⟨client, fullRequest client.config, { files := lineFiles, journal }⟩)) ∧
      (run [] (sendName :: fullLine ++ ["-p", "=x"]) { files := lineFiles }).status = 2 := by
  obtain ⟨client, started, hclient⟩ : ∃ client started,
      Client.startFrom [] [("debug", .null)] { files := lineFiles } = .ok client started := by
    refine ⟨?client, ?started, ?run⟩
    case run => rfl
  constructor
  -- no option is at fault, and the three splits are the ones the line was written for
  · have hparse : Send.Parses fullLine fullParts .post "http://localhost/" :=
      ⟨rfl, by decide, "post", rfl, by decide⟩
    obtain ⟨headers, params, files, journal, hheaders, hparams, hfiles, hresult, -⟩ :=
      (run_send hparse hclient fullParts_lookable).2 fullParts_faultless
    rw [Splits.unique_each hheaders (.cons splits_header .nil),
      Splits.unique_each hparams (.cons splits_param .nil),
      Splits.unique_each hfiles (.cons splits_file .nil)] at hresult
    have hrequest : (Send.Order.ofArguments fullParts .post "http://localhost/").request client.config
        [("X-Id", " 1 ")] [("a", "b=c")] [("doc", "a.txt")] = fullRequest client.config := rfl
    rw [hrequest] at hresult
    exact ⟨client, journal, hresult⟩
  · let parts : Arguments Send.Key :=
      { fullParts with options := fullParts.options ++ [(.param, some "=x")] }
    have hparse : Send.Parses (fullLine ++ ["-p", "=x"]) parts .post "http://localhost/" :=
      ⟨rfl, by decide, "post", rfl, by decide⟩
    have hlook : (Send.Order.ofArguments parts .post "http://localhost/").Lookable lineFiles :=
      ⟨fullParts_lookable.charset, fullParts_lookable.file⟩
    -- one parameter more, with nothing before its `=`
    have hbad : Malformed '=' "=x" := .inr ⟨[], ['x'], by decide, by decide, by decide⟩
    have hfault : (Send.Order.ofArguments parts .post "http://localhost/").Fault lineFiles :=
      .param (List.mem_cons_of_mem _ List.mem_cons_self) hbad
    exact ((run_send hparse hclient hlook).1 hfault).1

end Cli

end Courier
