import Rollout.Proofs.Command.Delivery
import Rollout.Proofs.Configuration

/-!
# What is checked before a connection is asked for

The command asks for at most one connection, and asks for it exactly when the endpoint, the
addresses to reuse and the output file have passed their checks.  An option counts unless it is
blank; the environment stands in for it, and the environment file for the environment.
Transactions belong to a run, and a run is started through the account that the connection gives.
-/

namespace Rollout.Command

/-! ## Options and variables -/

theorem setting?_extend (environment assignments : List (String × String)) (name : String) :
    setting? (Dotenv.extend environment assignments) name =
      (setting? environment name).or (Dotenv.lookup assignments name) := by
  simp only [setting?, Dotenv.extend, Dotenv.lookup, List.find?_append, List.find?_filter]
  cases found : environment.find? fun entry => entry.1 == name with
  | some entry => rfl
  | none =>
      -- No assignment of the name is left out, since the environment does not have it.
      have fresh : ∀ entry : String × String,
          decide ((!(environment.any fun known => known.1 == entry.1)) = true ∧
            (entry.1 == name) = true) = (entry.1 == name) := by
        intro entry
        by_cases same : entry.1 = name
        · rw [List.find?_eq_none] at found
          simp only [same, beq_self_eq_true, and_true, Bool.not_eq_true', List.any_eq_false,
            decide_eq_true_eq]
          exact found
        · simp [same]
      simp only [fresh]
      rfl

/-- The text of the environment file: that of the given path, or `.env` if none is given. -/
def Machine.environmentFile? (machine : Machine) (path : Option String) : Option String :=
  machine.files.read? (machine.path ((path.filter (· != "")).getD ".env"))

/-- The value of a variable: that of the environment or, where it has none, that of the environment
file. -/
def Machine.effectiveValue? (machine : Machine) (path : Option String) (name : String) :
    Option String :=
  (setting? machine.environment name).or
    ((machine.environmentFile? path).bind fun content =>
      Dotenv.lookup (Dotenv.parse content) name)

theorem setting?_loadEnvironment (machine : Machine) (path : Option String) (name : String) :
    setting? (machine.loadEnvironment path) name = machine.effectiveValue? path name := by
  simp only [Machine.loadEnvironment, Machine.effectiveValue?, Machine.environmentFile?]
  cases machine.files.read? (machine.path ((path.filter (· != "")).getD ".env")) with
  | none => rw [Option.bind_none, Option.or_none]
  | some content => rw [Option.bind_some, setting?_extend]

theorem Contract.optionKey_injective : Function.Injective Contract.optionKey := by
  intro left right same
  cases left <;> cases right <;> first | rfl | (simp [Contract.optionKey] at same)

theorem field_predeployedValue (given : List (Flag × String)) (contract : Contract) :
    (DeployOptions.predeployedValue given).field contract.optionKey =
      ((valueOf? given (.predeployed contract)).map Value.text).getD .missing := by
  let value? (contract : Contract) : Option String := valueOf? given (.predeployed contract)
  have found : (Contract.all.filterMap fun other =>
      (value? other).map fun value => (other.optionKey, Value.text value)).find?
        (fun entry => entry.1 == contract.optionKey) =
      (value? contract).map fun value => (contract.optionKey, .text value) := by
    have named : ∀ other : Contract,
        ((value? other).map fun value => (other.optionKey, Value.text value)).any
          (fun entry => entry.1 == contract.optionKey) =
        (other == contract && (value? contract).isSome) := by
      intro other
      by_cases same : other = contract
      · cases value : value? contract <;> simp [same, value]
      · have apart : other.optionKey ≠ contract.optionKey :=
          fun eq => same (Contract.optionKey_injective eq)
        rw [beq_false_of_ne same, Bool.false_and]
        cases value? other with
        | none => rfl
        | some content => exact beq_false_of_ne apart
    simp only [List.find?_filterMap, named]
    cases value : value? contract with
    | none =>
        have nothing : Contract.all.find? (fun _ => false) = none := rfl
        simp [nothing]
    | some content =>
        have listed : Contract.all.find? (· == contract) = some contract := by
          cases contract <;> rfl
        simp [listed, value]
  have field : (DeployOptions.predeployedValue given).field contract.optionKey =
      (((Contract.all.filterMap fun other =>
        (value? other).map fun value => (other.optionKey, Value.text value)).find?
          fun entry => entry.1 == contract.optionKey).map Prod.snd).getD .missing := rfl
  rw [field, found, Option.map_map]
  rfl

namespace Deploy

theorem orVariable_eq (option : Option String) (environment : List (String × String))
    (name : String) :
    orVariable option environment name =
      (option.filter (· != "")).or (setting? environment name) := by
  cases option with
  | none => rfl
  | some value => by_cases blank : value = "" <;> simp [orVariable, Option.filter, blank]

/-! ## The checks -/

variable (machine : Machine) (given : List (Flag × String))

/-- The endpoint: the option, unless it is empty, else the variable. -/
def endpoint? : Option String :=
  ((valueOf? given .rpcUrl).filter (· != "")).or
    (machine.effectiveValue? (valueOf? given .dotenv) "RPC_URL")

/-- What is given as the address of a contract, without the blanks around it: the option, unless it
is blank, else the variable; empty if neither is given. -/
def addressText (contract : Contract) : String :=
  let option := ((valueOf? given (.predeployed contract)).map Configuration.trimmed).getD ""
  if option = "" then
    ((machine.effectiveValue? (valueOf? given .dotenv) contract.envName).map
      Configuration.trimmed).getD ""
  else option

/-- Everything that can be checked without a connection is in order. -/
structure Checked : Prop where
  endpoint : ∃ url, endpoint? machine given = some url ∧ url ≠ "" ∧ Url.isRpcUrl url = true
  addresses : ∀ contract, addressText machine given contract ≠ "" →
    Configuration.Acceptable (addressText machine given contract)
  output : ∀ name, (DeployOptions.ofOptions given).outputFile = some name →
    ∃ files, machine.files.openForWriting (machine.path name) = .ok files

theorem effectiveText_eq (contract : Contract) :
    Configuration.effectiveText (DeployOptions.ofOptions given).predeployed
        (environmentValue (machine.loadEnvironment (valueOf? given .dotenv))) contract =
      .ok (addressText machine given contract) := by
  have option : Configuration.optionText (DeployOptions.ofOptions given).predeployed contract =
      ((valueOf? given (.predeployed contract)).map Configuration.trimmed).getD "" := by
    rw [Configuration.optionText, DeployOptions.ofOptions, field_predeployedValue]
    cases valueOf? given (.predeployed contract) <;> rfl
  have fallback : Configuration.environmentText
      (environmentValue (machine.loadEnvironment (valueOf? given .dotenv))) contract =
        .ok (((machine.effectiveValue? (valueOf? given .dotenv) contract.envName).map
          Configuration.trimmed).getD "") := by
    have present : (environmentValue
        (machine.loadEnvironment (valueOf? given .dotenv))).isAbsent = false := rfl
    rw [Configuration.environmentText, present, if_neg Bool.false_ne_true,
      field_environmentValue, setting?_loadEnvironment]
    cases machine.effectiveValue? (valueOf? given .dotenv) contract.envName <;> rfl
  simp only [Configuration.effectiveText, option, fallback, addressText]
  split <;> rfl

theorem endpoint_eq :
    orVariable (DeployOptions.ofOptions given).rpcUrl
      (machine.loadEnvironment (valueOf? given .dotenv)) "RPC_URL" = endpoint? machine given := by
  rw [orVariable_eq, setting?_loadEnvironment]
  rfl

theorem plan_eq_ok {options : DeployOptions} {environment : List (String × String)}
    {planned : Plan} :
    plan options environment = .ok planned ↔
      (orVariable options.rpcUrl environment "RPC_URL").getD "" = planned.rpcUrl ∧
        planned.rpcUrl ≠ "" ∧ Url.isRpcUrl planned.rpcUrl = true ∧
        Configuration.deployedContracts options.predeployed (environmentValue environment) =
          .ok planned.predeployed := by
  have refused : ∀ message : String, (throw message : Except String Plan) ≠ .ok planned :=
    fun _ same => nomatch same
  rw [plan]
  generalize (orVariable options.rpcUrl environment "RPC_URL").getD "" = url
  by_cases missing : url = ""
  · simp only [missing, if_true]
    exact iff_of_false (refused _) fun ⟨same, present, _⟩ => present same.symm
  · by_cases proper : Url.isRpcUrl url = true
    · simp only [missing, if_false, proper, Bool.not_true, Bool.false_eq_true]
      cases Configuration.deployedContracts options.predeployed
        (environmentValue environment) with
      | error fault => exact iff_of_false (refused _) fun ⟨_, _, _, same⟩ => nomatch same
      | ok addresses =>
          simp only [pure_eq_ok, Except.ok.injEq]
          constructor
          · rintro rfl
            exact ⟨rfl, missing, proper, rfl⟩
          · rintro ⟨rfl, _, _, rfl⟩
            rfl
    · simp only [missing, if_false, proper, Bool.not_false, if_true]
      exact iff_of_false (refused _) fun ⟨same, _, accepted, _⟩ => proper (same ▸ accepted)

theorem rpcUrl_of_plan {planned : Plan}
    (success : plan (.ofOptions given) (machine.loadEnvironment (valueOf? given .dotenv)) =
      .ok planned) : endpoint? machine given = some planned.rpcUrl := by
  obtain ⟨same, present, _⟩ := plan_eq_ok.mp success
  rw [endpoint_eq] at same
  cases url : endpoint? machine given with
  | none =>
      rw [url] at same
      exact absurd same.symm present
  | some found => rw [url, Option.getD_some] at same; rw [same]

/-- There is a plan if and only if the endpoint and the addresses are in order. -/
theorem exists_plan_iff :
    (∃ planned, plan (.ofOptions given)
        (machine.loadEnvironment (valueOf? given .dotenv)) = .ok planned) ↔
      (∃ url, endpoint? machine given = some url ∧ url ≠ "" ∧ Url.isRpcUrl url = true) ∧
        ∀ contract, addressText machine given contract ≠ "" →
          Configuration.Acceptable (addressText machine given contract) := by
  have collected := Configuration.exists_collect_iff (effectiveText_eq machine given) Contract.all
  simp only [Contract.mem_all, true_imp_iff] at collected
  rw [← collected]
  constructor
  · rintro ⟨planned, success⟩
    have endpoint := rpcUrl_of_plan machine given success
    obtain ⟨_, present, proper, addresses⟩ := plan_eq_ok.mp success
    exact ⟨⟨planned.rpcUrl, endpoint, present, proper⟩, planned.predeployed, addresses⟩
  · rintro ⟨⟨url, endpoint, present, proper⟩, addresses, collected⟩
    refine ⟨⟨url, addresses⟩, plan_eq_ok.mpr ⟨?_, present, proper, collected⟩⟩
    rw [endpoint_eq, endpoint, Option.getD_some]

theorem exists_openOutput_iff (options : DeployOptions) :
    (∃ files, openOutput machine options = .ok files) ↔
      ∀ name, options.outputFile = some name →
        ∃ files, machine.files.openForWriting (machine.path name) = .ok files := by
  rw [openOutput]
  cases options.outputFile with
  | none =>
      refine iff_of_true ⟨_, rfl⟩ fun name named => ?_
      exact absurd named.symm (Option.some_ne_none name)
  | some name => simp [mapError_eq_ok]

theorem exists_prepare_iff :
    (∃ ready, prepare machine (.ofOptions given)
        (machine.loadEnvironment (valueOf? given .dotenv)) = .ok ready) ↔
      Checked machine given := by
  have both : (∃ ready, prepare machine (.ofOptions given)
      (machine.loadEnvironment (valueOf? given .dotenv)) = .ok ready) ↔
        (∃ planned, plan (.ofOptions given)
          (machine.loadEnvironment (valueOf? given .dotenv)) = .ok planned) ∧
        ∃ files, openOutput machine (.ofOptions given) = .ok files := by
    simp only [prepare, bind_eq_ok, pure_eq_ok]
    constructor
    · rintro ⟨_, planned, success, files, opened, _⟩
      exact ⟨⟨planned, success⟩, files, opened⟩
    · rintro ⟨⟨planned, success⟩, files, opened⟩
      exact ⟨_, planned, success, files, opened, rfl⟩
  rw [both, exists_plan_iff, exists_openOutput_iff]
  constructor
  · rintro ⟨⟨endpoint, addresses⟩, output⟩
    exact ⟨endpoint, addresses, output⟩
  · rintro ⟨endpoint, addresses, output⟩
    exact ⟨⟨endpoint, addresses⟩, output⟩

/-! ## The connection -/

/-- An invocation asks for nothing before its checks, and sends nothing before it knows the account
that pays. -/
structure Guards (report : Report) : Prop where
  once : report.requests.length ≤ 1
  asks_iff : report.requests ≠ [] ↔ Checked machine given
  endpoint : ∀ request ∈ report.requests, endpoint? machine given = some request.url
  refused : ¬ Checked machine given →
    report.requests = [] ∧ report.sent = [] ∧ report.on .output = "" ∧ report.exitCode = 1
  sent : report.sent ≠ [] → report.requests ≠ [] ∧
    ∃ signer account deployment, machine.connection = .signer signer ∧
      signer.info = .ok account ∧ started machine (.ofOptions given) = .ok deployment ∧
      report.sent = deployment.sent

variable {machine given}

theorem Guards.of_refused {message : String} (unchecked : ¬ Checked machine given) :
    Guards machine given (.ofWritings machine true
      (complaint (printer machine (.ofOptions given)) message)) where
  once := Nat.zero_le 1
  asks_iff := iff_of_false (fun asks => asks rfl) unchecked
  endpoint := fun _ asked => absurd asked List.not_mem_nil
  refused := by
    refine fun _ => ⟨rfl, rfl, ?_, rfl⟩
    have errors : ∀ line ∈ (printer machine (.ofOptions given)).describe
        (.commandFailed (.text message)), line.stream = .error :=
      Printer.stream_of_failure _ rfl
    rw [complaint_eq, Report.on_eq_written, Report.ofWritings, written_writeLines]
    exact Console.printed_output_eq_empty errors
  sent := fun sends => absurd rfl sends

theorem Guards.of_checked {report : Report} {planned : Plan}
    (checked : Checked machine given)
    (success : plan (.ofOptions given) (machine.loadEnvironment (valueOf? given .dotenv)) =
      .ok planned)
    (requests : report.requests =
      [request (.ofOptions given) planned (machine.loadEnvironment (valueOf? given .dotenv))])
    (sent : report.sent ≠ [] →
      ∃ signer account deployment, machine.connection = .signer signer ∧
        signer.info = .ok account ∧ started machine (.ofOptions given) = .ok deployment ∧
        report.sent = deployment.sent) : Guards machine given report where
  once := by rw [requests, List.length_singleton]
  asks_iff := by
    rw [requests]
    exact iff_of_true (List.cons_ne_nil _ _) checked
  endpoint := by
    rw [requests, List.forall_mem_singleton]
    exact rpcUrl_of_plan machine given success
  refused := fun unchecked => absurd checked unchecked
  sent := by
    rw [requests]
    exact fun sends => ⟨List.cons_ne_nil _ _, sent sends⟩

theorem connect_eq_ok {signer : Signer} {known : Event}
    (connected : connect machine = .ok (signer, known)) :
    machine.connection = .signer signer ∧ ∃ account, signer.info = .ok account := by
  rw [connect] at connected
  cases connection : machine.connection with
  | refused message =>
      rw [connection] at connected
      contradiction
  | signer other =>
      rw [connection] at connected
      cases info : other.info with
      | error message =>
          simp only [info] at connected
          contradiction
      | ok account =>
          simp only [info] at connected
          obtain ⟨rfl, _⟩ := Prod.mk.inj (Except.ok.inj connected)
          exact ⟨rfl, account, info⟩

theorem guards (machine : Machine) (given : List (Flag × String)) :
    Guards machine given (run machine (.ofOptions given)) := by
  have ready_iff := exists_prepare_iff machine given
  have environment : (DeployOptions.ofOptions given).dotenv = valueOf? given .dotenv := rfl
  simp only [run, environment]
  cases prepared : prepare machine (.ofOptions given)
      (machine.loadEnvironment (valueOf? given .dotenv)) with
  | error message =>
      refine .of_refused fun checked => ?_
      obtain ⟨ready, success⟩ := ready_iff.mpr checked
      rw [prepared] at success
      contradiction
  | ok ready =>
      obtain ⟨planned, files⟩ := ready
      have checked := ready_iff.mp ⟨_, prepared⟩
      have success : plan (.ofOptions given)
          (machine.loadEnvironment (valueOf? given .dotenv)) = .ok planned := by
        simp only [prepare, bind_eq_ok, pure_eq_ok, Prod.mk.injEq] at prepared
        obtain ⟨_, success, _, _, rfl, _⟩ := prepared
        exact success
      simp only [proceed]
      cases connected : connect machine with
      | error message => exact .of_checked checked success rfl fun sends => absurd rfl sends
      | ok account =>
          obtain ⟨signer, known⟩ := account
          refine .of_checked checked success rfl fun _ => ?_
          obtain ⟨connection, info⟩ := connect_eq_ok connected
          obtain ⟨account, info⟩ := info
          have ran : started machine (.ofOptions given) =
              .ok (runDeployment (runOptions (.ofOptions given) planned) signer .unlimited) := by
            simp only [started, environment, prepared, connected]
            rfl
          exact ⟨signer, account, _, connection, info, ran, rfl⟩

end Deploy

/-- The command asks for one connection at most, and only when every check has passed; transactions
are those of the run that is started through the account of the connection. -/
theorem asks_only_when_checked (machine : Machine) (arguments : List String)
    (given : List (Flag × String)) (acts : deploying? arguments = some given) :
    Deploy.Guards machine given (run machine arguments) := by
  rw [run_of_deploying acts]
  exact Deploy.guards machine given

/-- A machine whose environment file gives an endpoint that does not count and a malformed
address. -/
def malformedMachine : Machine :=
  { environment := [("RPC_URL", "http://localhost:8545")]
    files := FileTree.standard.addFile (.resolve "/work" ".env")
      "RPC_URL=none\nexport ESPRESSO_SEQUENCER_HOTSHOT_ADDRESS = '0x1234' # short\n"
    workingDirectory := "/work"
    connection := .signer Rollout.Run.busySigner
    colours := false }

/-- A command line that leaves the address of the consensus contract blank. -/
def blankArguments : List String := ["--hotshot", "  ", "--mock", "-o", "deployed.env"]

/-- The options of that command line. -/
def blankOptions : List (Flag × String) :=
  [(.predeployed .hotShot, "  "), (.mock, ""), (.out, "deployed.env")]

theorem asks_only_when_checked_malformed :
    deploying? blankArguments = some blankOptions ∧
      Deploy.endpoint? malformedMachine blankOptions = some "http://localhost:8545" ∧
      Deploy.addressText malformedMachine blankOptions .hotShot = "0x1234" ∧
      Deploy.Guards malformedMachine blankOptions (run malformedMachine blankArguments) := by
  have acts : deploying? blankArguments = some blankOptions := by decide +kernel
  exact ⟨acts, by decide +kernel, by decide +kernel,
    asks_only_when_checked malformedMachine blankArguments blankOptions acts⟩

end Rollout.Command
