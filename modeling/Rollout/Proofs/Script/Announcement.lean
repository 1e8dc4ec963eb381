import Mathlib.Data.List.Nodup
import Rollout.Proofs.Script.Passage

/-!
# Each failure announced once

A failure leaves every deployment as a failure of the deployer's own family, under one token on its
whole way.  The announcements in a log are the departures of the timeline without those of failures
that have departed before.  The exception is a thrown value that cannot be shown: in its place a new
failure outside of the family leaves the innermost deployment, which nobody announces.
-/

namespace Rollout

open Procedure

/-- A failure of the deployer's own family that leaves the deployment of a contract. -/
structure Departure where
  /-- The contract. -/
  contract : Contract
  /-- The failure. -/
  fault : Fault

namespace Departure

/-- The token of the failure. -/
def token (departure : Departure) : Nat := departure.fault.token

/-- What the announcement of a departure says. -/
def report (departure : Departure) : String × String :=
  (departure.contract.name, departure.fault.failure.message)

/-- The departures of failures that have not departed before. -/
def firsts : List Departure → List Departure
  | [] => []
  | departure :: rest =>
      departure :: (firsts rest).filter fun later => later.token ≠ departure.token

theorem firsts_append_single (departures : List Departure) (last : Departure) :
    firsts (departures ++ [last]) =
      firsts departures ++ if last.token ∈ departures.map token then [] else [last] := by
  induction departures with
  | nil => rfl
  | cons departure rest ih =>
      simp only [List.cons_append, firsts, ih, List.filter_append, List.map_cons, List.mem_cons]
      congr 2
      by_cases repeated : last.token ∈ rest.map token
      · simp [repeated]
      · by_cases same : last.token = departure.token <;> simp [repeated, same]

theorem mem_of_mem_firsts {departures : List Departure} {departure : Departure}
    (member : departure ∈ firsts departures) : departure ∈ departures := by
  induction departures with
  | nil => exact member
  | cons first rest ih =>
      rw [firsts, List.mem_cons, List.mem_filter] at member
      rcases member with here | ⟨later, -⟩
      · exact List.mem_cons.mpr (.inl here)
      · exact List.mem_cons_of_mem first (ih later)

theorem firsts_distinct (departures : List Departure) : ((firsts departures).map token).Nodup := by
  induction departures with
  | nil => exact List.nodup_nil
  | cons departure rest ih =>
      rw [firsts, List.map_cons, List.nodup_cons]
      refine ⟨?_, ih.sublist (List.filter_sublist.map token)⟩
      intro member
      obtain ⟨later, kept, same⟩ := List.mem_map.mp member
      have apart := (List.mem_filter.mp kept).2
      simp [same] at apart

theorem exists_first {departures : List Departure} {departure : Departure}
    (member : departure ∈ departures) :
    ∃ first ∈ firsts departures, first.token = departure.token := by
  induction departures with
  | nil => contradiction
  | cons first rest ih =>
      by_cases same : departure.token = first.token
      · exact ⟨first, List.mem_cons_self, same.symm⟩
      · rcases List.mem_cons.mp member with rfl | later
        · exact (same rfl).elim
        · obtain ⟨found, known, token⟩ := ih later
          refine ⟨found, List.mem_cons_of_mem first (List.mem_filter.mpr ⟨known, ?_⟩), token⟩
          simpa [token] using same

end Departure

/-- The departure of a failure that leaves the deployment of a contract, if it is of the family. -/
def Departure.of? (contract : Contract) (fault : Fault) : Option Departure :=
  if fault.failure.isOwn then some ⟨contract, fault⟩ else none

/-- The departure that a moment is. -/
def Moment.departure? : Moment → Option Departure
  | left call =>
      match call.result with
      | .ok _ _ => none
      | .error fault _ => Departure.of? call.contract fault
  | _ => none

/-- The departures among moments, in order. -/
def departures (moments : List Moment) : List Departure := moments.filterMap Moment.departure?

@[simp]
theorem departures_nil : departures [] = [] := rfl

@[simp]
theorem departures_pause (session : Session) : departures [.pause session] = [] := rfl

@[simp]
theorem departures_recorded (contract : Contract) (address : Address) (session : Session) :
    departures [.recorded contract address session] = [] := rfl

theorem departures_left_of_ok {call : Call} {address : Address} {session : Session}
    (given : call.result = .ok address session) : departures [.left call] = [] := by
  simp only [departures, List.filterMap_cons, Moment.departure?, given, List.filterMap_nil]

theorem departures_left_of_error {call : Call} {fault : Fault} {session : Session}
    (given : call.result = .error fault session) :
    departures [.left call] = (Departure.of? call.contract fault).toList := by
  simp only [departures, List.filterMap_cons, Moment.departure?, given, List.filterMap_nil]
  cases Departure.of? call.contract fault <;> rfl

@[simp]
theorem departures_append (first second : List Moment) :
    departures (first ++ second) = departures first ++ departures second :=
  List.filterMap_append

/-- The contract and the message of which an event announces the failure. -/
def Event.failed? : Event → Option (String × String)
  | contractFailed contract message => some (contract, message)
  | _ => none

/-- Whether a failure has departed, is kept or is on its way. -/
def Session.Knows (session : Session) (past : List Departure) (flight : Option Fault)
    (fault : Fault) : Prop :=
  fault ∈ past.map Departure.fault ∨ fault ∈ session.kept.map Prod.snd ∨ flight = some fault

/-- What a session knows about the departures so far, while a failure may be on its way. -/
structure Session.Accounts (past : List Departure) (flight : Option Fault) (session : Session) :
    Prop where
  /-- What has departed is of the deployer's own family. -/
  own : ∀ departure ∈ past, departure.fault.failure.isOwn = true
  /-- What has been announced is what has departed. -/
  announced : ∀ token, token ∈ session.announced ↔ token ∈ past.map Departure.token
  /-- The announcements are the first departures. -/
  reports : session.log.filterMap Event.failed? = (Departure.firsts past).map Departure.report
  /-- The tokens of known failures have been given out. -/
  issued : ∀ fault, session.Knows past flight fault → fault.token < session.issued
  /-- Known failures with one token are one failure. -/
  unique :
    ∀ fault other, session.Knows past flight fault → session.Knows past flight other →
      fault.token = other.token → fault = other

namespace Session.Accounts

variable {past : List Departure} {flight later : Option Fault} {before after : Session}

theorem start (signer : Signer) (gasLimit : Option Number) (book : AddressBook) :
    (Session.start signer gasLimit book).Accounts [] none where
  own := by simp
  announced := by simp [Session.start]
  reports := rfl
  issued := by simp [Session.Knows, Session.start]
  unique := by simp [Session.Knows, Session.start]

/-- Nothing is announced and no new failure becomes known. -/
theorem carry (accounts : before.Accounts past flight)
    (known : ∀ fault, after.Knows past later fault → before.Knows past flight fault)
    (announced : after.announced = before.announced)
    (log : after.log.filterMap Event.failed? = before.log.filterMap Event.failed?)
    (issued : after.issued = before.issued) : after.Accounts past later where
  own := accounts.own
  announced := by rw [announced]; exact accounts.announced
  reports := by rw [log, accounts.reports]
  issued := by
    intro fault given
    rw [issued]
    exact accounts.issued fault (known fault given)
  unique := by
    intro fault other given also same
    exact accounts.unique fault other (known fault given) (known other also) same

theorem settle (accounts : before.Accounts past flight) : before.Accounts past none := by
  refine accounts.carry (fun fault given => ?_) rfl rfl rfl
  rcases given with departed | kept | sent
  · exact .inl departed
  · exact .inr (.inl kept)
  · contradiction

/-- A new failure is on its way. -/
theorem raise (accounts : before.Accounts past none) (failure : Failure) :
    before.draw.Accounts past (some ⟨before.issued, failure⟩) := by
  have split : ∀ fault, before.draw.Knows past (some ⟨before.issued, failure⟩) fault →
      before.Knows past none fault ∨ fault = ⟨before.issued, failure⟩ := by
    rintro fault (departed | kept | sent)
    · exact .inl (.inl departed)
    · exact .inl (.inr (.inl kept))
    · exact .inr (Option.some.inj sent).symm
  refine ⟨accounts.own, accounts.announced, accounts.reports, ?_, ?_⟩
  · intro fault given
    rw [draw_issued]
    rcases split fault given with known | rfl
    · have bound := accounts.issued fault known
      omega
    · exact Nat.lt_succ_self before.issued
  · intro fault other given also same
    rcases split fault given with known | rfl <;> rcases split other also with known' | rfl
    · exact accounts.unique fault other known known' same
    · have bound := accounts.issued fault known
      simp only at same
      omega
    · have bound := accounts.issued other known'
      simp only at same
      omega
    · rfl

theorem token_of_announced {fault : Fault} (accounts : before.Accounts past (some fault))
    (announced : fault.token ∈ before.announced) : ∃ departure ∈ past, departure.fault = fault := by
  obtain ⟨departure, member, same⟩ := List.mem_map.mp ((accounts.announced _).mp announced)
  refine ⟨departure, member, accounts.unique _ _ (.inl (List.mem_map_of_mem member)) ?_ same⟩
  exact .inr (.inr rfl)

theorem knows_depart {contract : Contract} {fault other : Fault}
    (given : before.Knows (past ++ [⟨contract, fault⟩]) (some fault) other) :
    before.Knows past (some fault) other := by
  rcases given with departed | rest
  · rw [List.map_append, List.mem_append] at departed
    rcases departed with early | last
    · exact .inl early
    · exact .inr (.inr (congrArg some (List.mem_singleton.mp last).symm))
  · exact .inr rest

/-- An announced failure departs once more. -/
theorem pass {fault : Fault} (accounts : before.Accounts past (some fault)) (contract : Contract)
    (announced : fault.token ∈ before.announced) :
    before.Accounts (past ++ [⟨contract, fault⟩]) (some fault) := by
  obtain ⟨departure, member, same⟩ := accounts.token_of_announced announced
  have departed : (⟨contract, fault⟩ : Departure).token ∈ past.map Departure.token :=
    (accounts.announced _).mp announced
  refine ⟨?_, ?_, ?_, ?_, ?_⟩
  · intro other given
    rcases List.mem_append.mp given with early | last
    · exact accounts.own other early
    · rw [List.mem_singleton.mp last]
      exact same ▸ accounts.own departure member
  · intro token
    rw [accounts.announced, List.map_append, List.mem_append]
    refine ⟨.inl, fun given => given.elim id fun last => ?_⟩
    rw [List.mem_singleton.mp last]
    exact departed
  · rw [accounts.reports, Departure.firsts_append_single, if_pos departed, List.append_nil]
  · exact fun other given => accounts.issued other (knows_depart given)
  · exact fun one other given also => accounts.unique one other (knows_depart given)
      (knows_depart also)

/-- A failure departs for the first time and is announced. -/
theorem depart {fault : Fault} (accounts : before.Accounts past (some fault))
    (contract : Contract) (own : fault.failure.isOwn = true)
    (unannounced : fault.token ∉ before.announced) :
    (before.announce contract fault).Accounts (past ++ [⟨contract, fault⟩]) (some fault) := by
  have departed : (⟨contract, fault⟩ : Departure).token ∉ past.map Departure.token :=
    fun given => unannounced ((accounts.announced _).mpr given)
  refine ⟨?_, ?_, ?_, ?_, ?_⟩
  · intro other given
    rcases List.mem_append.mp given with early | last
    · exact accounts.own other early
    · rw [List.mem_singleton.mp last]
      exact own
  · intro token
    rw [announce_announced, List.mem_cons, accounts.announced, List.map_append, List.mem_append,
      List.map_singleton, List.mem_singleton]
    exact or_comm
  · rw [announce_log, List.filterMap_append, accounts.reports, Departure.firsts_append_single]
    rw [if_neg departed, List.map_append]
    rfl
  · exact fun other given => accounts.issued other (knows_depart given)
  · exact fun one other given also => accounts.unique one other (knows_depart given)
      (knows_depart also)

/-- The token that is given out next is that of no failure that is known. -/
theorem token_ne_issued {fault : Fault} (accounts : before.Accounts past flight)
    (known : before.Knows past flight fault) : fault.token ≠ before.issued :=
  Nat.ne_of_lt (accounts.issued fault known)

theorem issued_not_mem_announced (accounts : before.Accounts past flight) :
    before.issued ∉ before.announced := by
  intro announced
  obtain ⟨departure, member, same⟩ := List.mem_map.mp ((accounts.announced _).mp announced)
  exact accounts.token_ne_issued (.inl (List.mem_map_of_mem member)) same

/-- What leaves a failed call has departed if it is of the deployer's own family, as a new failure
unless it was of that family before. -/
theorem leave {fault : Fault} (accounts : before.Accounts past (some fault))
    (contract : Contract) :
    (Deployer.leaving contract fault before).2.Accounts
      (past ++ (Departure.of? contract (Deployer.leaving contract fault before).1).toList)
      (some (Deployer.leaving contract fault before).1) := by
  have departs : fault.failure.isOwn = true →
      (Departure.of? contract fault).toList = [⟨contract, fault⟩] := by
    intro own
    rw [Departure.of?, own]
    rfl
  obtain ⟨own, announced, ends⟩ | ⟨own, unannounced, ends⟩ | ⟨_, ends⟩ | ⟨_, _, ends⟩ :=
    Deployer.leaving_cases contract fault before
  · rw [ends, departs own]
    exact accounts.pass contract announced
  · rw [ends, departs own]
    exact accounts.depart contract own unannounced
  · rw [ends]
    exact (accounts.settle.raise _).depart contract rfl accounts.issued_not_mem_announced
  · have stays : Departure.of? contract ⟨before.issued, .unshowable⟩ = none := rfl
    simpa [ends, stays] using accounts.settle.raise .unshowable

end Session.Accounts

/-- What a call that fails lets through after the given departures: the failure of its procedure if
that is of the deployer's own family, and otherwise a failure that shares its token with none that
departed before, is kept or is that of its procedure.  It is a failure of its contract that has the
other as its cause, or the complaint that the other cannot be shown. -/
def Call.Honest (past : List Departure) (call : Call) : Prop :=
  ∀ fault session, call.result = .error fault session →
    ∃ cause failed, call.attempt = .error cause failed ∧
      if cause.failure.isOwn then fault = cause
      else
        fault.failure = .ofCause call.contract cause.failure ∧
          ∀ other, failed.Knows past (some cause) other → other.token ≠ fault.token

/-- Whether every call among moments is honest, given the departures before them. -/
def HonestAfter (past : List Departure) : List Moment → Prop
  | [] => True
  | .left call :: rest =>
      call.Honest past ∧ HonestAfter (past ++ departures [.left call]) rest
  | _ :: rest => HonestAfter past rest

theorem honestAfter_append (past : List Departure) (first second : List Moment) :
    HonestAfter past (first ++ second) ↔
      HonestAfter past first ∧ HonestAfter (past ++ departures first) second := by
  induction first generalizing past with
  | nil => simp [HonestAfter, departures]
  | cons moment rest ih =>
      cases moment with
      | left call =>
          rw [List.cons_append, HonestAfter, HonestAfter, ih, and_assoc, List.append_assoc,
            ← departures_append, List.singleton_append]
      | _ => exact ih past

theorem Call.honest_of_ok {call : Call} {address : Address} {session : Session}
    (given : call.result = .ok address session) (past : List Departure) : call.Honest past := by
  intro fault failed result
  rw [given] at result
  contradiction

theorem Call.honest_of_error {call : Call} {fault : Fault} {middle : Session}
    {past : List Departure} (absent : call.before.book.lookup call.contract = none)
    (given : call.attempt = .error fault middle)
    (accounts : middle.Accounts past (some fault)) : call.Honest past := by
  intro leaver session result
  have ends := Call.result_of_error absent given
  rw [result] at ends
  obtain ⟨rfl, -⟩ := EStateM.Result.error.inj ends
  refine ⟨fault, middle, given, ?_⟩
  obtain ⟨own, _, leaves⟩ | ⟨own, _, leaves⟩ | ⟨foreign, leaves⟩ | ⟨foreign, untold, leaves⟩ :=
    Deployer.leaving_cases call.contract fault middle
  · rw [if_pos own, leaves]
  · rw [if_pos own, leaves]
  · obtain ⟨foreign, told⟩ := Failure.isForeign_iff.mp foreign
    rw [foreign, if_neg Bool.false_ne_true, leaves, Failure.ofCause, told]
    exact ⟨rfl, fun _ => accounts.token_ne_issued⟩
  · rw [foreign, if_neg Bool.false_ne_true, leaves, Failure.ofCause, untold]
    exact ⟨rfl, fun _ => accounts.token_ne_issued⟩

theorem departures_around {call : Call} (moments : List Moment) :
    departures (.entered call :: (moments ++ [.left call])) =
      departures moments ++ departures [.left call] := by
  rw [← List.singleton_append, departures_append, departures_append]
  rfl

theorem honestAfter_around {call : Call} {past : List Departure} {moments : List Moment}
    (inner : HonestAfter past moments) (honest : call.Honest (past ++ departures moments)) :
    HonestAfter past (.entered call :: (moments ++ [.left call])) := by
  change HonestAfter past (moments ++ [.left call])
  rw [honestAfter_append]
  exact ⟨inner, honest, trivial⟩

theorem Event.failed?_of_progress (event : Event) (progress : event.isProgress = true) :
    event.failed? = none := by
  cases event <;> simp_all [isProgress, isTransaction, failed?]

theorem Session.Accounts.opened {past : List Departure} {call : Call}
    (accounts : call.before.Accounts past none) : call.opened.Accounts past none :=
  accounts.carry (fun _ given => given) rfl (by simp [Call.opened, Event.failed?]) rfl

/-- One induction on passages: a new failure takes a new token, and a call that fails announces
what leaves it unless that has departed before. -/
theorem Passage.accounts {running : List Contract} {before after : Session}
    {moments : List Moment} {thrown : Option Fault}
    (passage : Passage running before moments thrown after) {past : List Departure}
    (accounts : before.Accounts past none) :
    after.Accounts (past ++ departures moments) thrown ∧ HonestAfter past moments := by
  induction passage generalizing past with
  | quiet quiet =>
      refine ⟨?_, trivial⟩
      rw [departures_nil, List.append_nil]
      refine accounts.carry ?_ quiet.announced
        (quiet.filterMap_log Event.failed?_of_progress) quiet.issued
      intro fault given
      rwa [Session.Knows, quiet.kept] at given
  | raise failure =>
      refine ⟨?_, trivial⟩
      rw [departures_nil, List.append_nil]
      exact accounts.raise failure
  | again kept =>
      refine ⟨?_, trivial⟩
      rw [departures_nil, List.append_nil]
      refine accounts.carry ?_ rfl rfl rfl
      rintro other (departed | given | sent)
      · exact .inl departed
      · exact .inr (.inl given)
      · obtain rfl := Option.some.inj sent
        exact .inr (.inl (List.mem_map_of_mem kept))
  | keep name body ih =>
      obtain ⟨ended, honest⟩ := ih accounts
      refine ⟨ended.carry ?_ rfl rfl rfl, honest⟩
      rintro other (departed | given | sent)
      · exact .inl departed
      · rw [Session.keep_kept, List.map_cons, List.mem_cons] at given
        rcases given with rfl | given
        · exact .inr (.inr rfl)
        · exact .inr (.inl (List.Sublist.subset (List.filter_sublist.map _) given))
      · contradiction
  | pause =>
      refine ⟨?_, trivial⟩
      rwa [departures_pause, List.append_nil]
  | andThen head tail first second =>
      obtain ⟨middle, honest⟩ := first accounts
      obtain ⟨ended, later⟩ := second middle
      refine ⟨?_, (honestAfter_append _ _ _).mpr ⟨honest, later⟩⟩
      rwa [departures_append, ← List.append_assoc]
  | record contract address =>
      refine ⟨?_, trivial⟩
      rw [departures_recorded, List.append_nil]
      exact accounts.carry (fun _ given => given) rfl rfl rfl
  | skipped call known =>
      have ends := Call.result_of_known known
      refine ⟨?_, Call.honest_of_ok ends past, trivial⟩
      simp only [departures, List.filterMap_cons, List.filterMap_nil, Moment.departure?, ends,
        List.append_nil]
      refine accounts.carry (fun _ given => given) rfl ?_ rfl
      simp [Event.failed?]
  | deployed call absent body given ih =>
      obtain ⟨ended, honest⟩ := ih accounts.opened
      have ends := Call.result_of_ok absent given
      refine ⟨?_, honestAfter_around honest (Call.honest_of_ok ends _)⟩
      rw [departures_around, departures_left_of_ok ends, List.append_nil]
      exact ended.carry (fun _ given => given) rfl (by simp [Event.failed?]) rfl
  | failed call absent body given ih =>
      obtain ⟨ended, honest⟩ := ih accounts.opened
      have ends := Call.result_of_error absent given
      refine ⟨?_, honestAfter_around honest (Call.honest_of_error absent given ended)⟩
      rw [departures_around, departures_left_of_error ends, ← List.append_assoc]
      exact ended.leave call.contract

/-- Top-level actions leave no failure on its way. -/
theorem Session.timeline_accounts (session : Session) (actions : List Action)
    {past : List Departure} (accounts : session.Accounts past none) :
    (session.afterEach actions).Accounts (past ++ departures (session.timeline actions)) none ∧
      HonestAfter past (session.timeline actions) := by
  induction actions generalizing session past with
  | nil => exact (Passage.pause : Passage [] session _ _ _).accounts accounts
  | cons action rest ih =>
      obtain ⟨thrown, passage⟩ := session.perform_passage action
      obtain ⟨ended, honest⟩ := passage.accounts accounts
      obtain ⟨settled, later⟩ := ih _ ended.settle
      rw [afterEach, timeline, departures_append, ← List.append_assoc]
      exact ⟨settled, (honestAfter_append _ _ _).mpr ⟨honest, later⟩⟩

/-- Each failure is announced once along a timeline and keeps its identity. -/
structure AnnouncedOnce (timeline : List Moment) (log : List Event) : Prop where
  /-- Every call lets through what it should. -/
  honest :
    ∀ earlier call later, timeline = earlier ++ .left call :: later →
      call.Honest (departures earlier)
  /-- Departures under one token are those of one failure. -/
  identified :
    ∀ one ∈ departures timeline, ∀ other ∈ departures timeline, one.token = other.token →
      one.fault = other.fault
  /-- Every failure that departs has a first departure. -/
  covered :
    ∀ departure ∈ departures timeline,
      ∃ first ∈ Departure.firsts (departures timeline), first.fault = departure.fault
  /-- No failure has two first departures. -/
  distinct : ((Departure.firsts (departures timeline)).map Departure.token).Nodup
  /-- The announcements are the first departures, in order, each with the contract that the failure
  left first and with its message. -/
  announcements :
    log.filterMap Event.failed? =
      (Departure.firsts (departures timeline)).map Departure.report

/-- Over the life of a deployer every failure of its own family that leaves a deployment is
announced exactly once, when it leaves one for the first time, and its identity does not change on
its way.  Others are not announced: they leave in the place of thrown values that cannot be
shown. -/
theorem announces_each_failure_once (signer : Signer) (gasLimit : Option Number)
    (book : AddressBook) (actions : List Action) :
    AnnouncedOnce ((Session.start signer gasLimit book).timeline actions)
      ((Session.start signer gasLimit book).afterEach actions).log := by
  obtain ⟨ended, honest⟩ :=
    Session.timeline_accounts _ actions (Session.Accounts.start signer gasLimit book)
  rw [List.nil_append] at ended
  have identified : ∀ one ∈ departures ((Session.start signer gasLimit book).timeline actions),
      ∀ other ∈ departures ((Session.start signer gasLimit book).timeline actions),
        one.token = other.token → one.fault = other.fault :=
    fun one member other also =>
      ended.unique one.fault other.fault (.inl (List.mem_map_of_mem member))
        (.inl (List.mem_map_of_mem also))
  refine ⟨?_, identified, ?_, Departure.firsts_distinct _, ended.reports⟩
  · intro earlier call later split
    rw [split, honestAfter_append, List.nil_append] at honest
    exact honest.2.1
  · intro departure member
    obtain ⟨first, known, same⟩ := Departure.exists_first member
    exact ⟨first, known, identified first (Departure.mem_of_mem_firsts known) departure member same⟩

/-- A signer that takes every transaction. -/
def obligingSigner : Signer := ⟨Signer.usualAddress, Signer.usualChainId, true, []⟩

/-- A value that cannot be shown, since the operation that should give its text is a number. -/
def unshowableValue : Value := .record [("toString", .number (.int 1))]

/-- A deployment in which such a value is thrown. -/
def unshowableScript : List Action := [.deploy .plonkVerifier [.fail (.thrown unshowableValue)]]

/-- What leaves such a deployment is not of the deployer's own family, and is not announced. -/
theorem unshowable_leaves_unannounced :
    let session := Session.start obligingSigner none .empty
    (session.perform unshowableScript).1 = .error .unshowable ∧
      Failure.unshowable.isOwn = false ∧
      (session.afterEach unshowableScript).log.filterMap Event.failed? = [] :=
  ⟨rfl, rfl, rfl⟩

end Rollout
