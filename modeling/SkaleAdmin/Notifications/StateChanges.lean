import SkaleAdmin.Notifications.Messages
import SkaleAdmin.Library.PyNumerals
import Mathlib.Data.List.Infix

/-! Sequences of notifications, any of which may fail to be sent. -/

namespace SkaleAdmin.Notifications

open PyText

/-! ### The keys of the store -/

/-- What the messages are about. -/
inductive Subject where
  | schain (name : Text)
  | balance
  deriving DecidableEq

namespace Subject

def countKey : Subject → Text
  | schain name => checksCountKey name
  | balance => balanceCountKey

def stateKey : Subject → Text
  | schain name => checksStateKey name
  | balance => balanceStateKey

theorem getLast?_countKey (subject : Subject) : subject.countKey.getLast? = some 't' := by
  cases subject with
  | schain name =>
      unfold countKey checksCountKey
      simp only [List.getLast?_append, String.reduceToList]
      rfl
  | balance =>
      unfold countKey balanceCountKey
      simp only [String.reduceToList]
      rfl

theorem getLast?_stateKey (subject : Subject) : subject.stateKey.getLast? = some 'e' := by
  cases subject with
  | schain name =>
      unfold stateKey checksStateKey
      simp only [List.getLast?_append, String.reduceToList]
      rfl
  | balance =>
      unfold stateKey balanceStateKey
      simp only [String.reduceToList]
      rfl

theorem countKey_ne_stateKey (first second : Subject) : first.countKey ≠ second.stateKey := by
  intro same
  have last := first.getLast?_countKey
  rw [same, second.getLast?_stateKey] at last
  exact absurd last (by decide)

theorem checksKeys_ne_balanceKeys (name : Text) :
    checksCountKey name ≠ balanceCountKey ∧ checksStateKey name ≠ balanceStateKey := by
  constructor
  · intro same
    have ninth := congrArg (fun key => key[9]?) same
    unfold checksCountKey balanceCountKey at ninth
    simp only [String.reduceToList] at ninth
    cases ninth
  · intro same
    have ninth := congrArg (fun key => key[9]?) same
    unfold checksStateKey balanceStateKey at ninth
    simp only [String.reduceToList] at ninth
    cases ninth

theorem countKey_injective : Function.Injective countKey := by
  intro first second same
  cases first with
  | schain first =>
      cases second with
      | schain second =>
          exact congrArg schain (List.append_cancel_left (List.append_cancel_right same))
      | balance => exact absurd same (checksKeys_ne_balanceKeys first).1
  | balance =>
      cases second with
      | schain second => exact absurd same.symm (checksKeys_ne_balanceKeys second).1
      | balance => rfl

theorem stateKey_injective : Function.Injective stateKey := by
  intro first second same
  cases first with
  | schain first =>
      cases second with
      | schain second =>
          exact congrArg schain (List.append_cancel_left (List.append_cancel_right same))
      | balance => exact absurd same (checksKeys_ne_balanceKeys first).2
  | balance =>
      cases second with
      | schain second => exact absurd same.symm (checksKeys_ne_balanceKeys second).2
      | balance => rfl

end Subject

/-! ### The states as texts -/

theorem quote_notMem (name : CheckName) : '\'' ∉ name.text := by
  intro member
  cases name.plain _ member with
  | inl alphanumeric => exact absurd alphanumeric (by decide)
  | inr underscore => exact absurd underscore (by decide)

theorem reprCheck_append {first second : Sigma fun _ : CheckName => Bool} {front back : Text}
    (same : reprCheck first ++ front = reprCheck second ++ back) :
    first = second ∧ front = back := by
  obtain ⟨name, status⟩ := first
  obtain ⟨other, otherStatus⟩ := second
  unfold reprCheck at same
  simp only [String.reduceToList, List.append_assoc, List.cons_append, List.nil_append,
    List.cons.injEq, true_and] at same
  have quoted : ∀ (status : Bool) (rest : Text),
      (if status then "', True)" else "', False)").toList ++ rest =
        '\'' :: ((if status then ", True)" else ", False)").toList ++ rest) := by
    intro status rest
    cases status <;> simp
  rw [quoted, quoted] at same
  obtain ⟨names, rests⟩ := before_separator (quote_notMem name) (quote_notMem other) same
  obtain rfl : name = other := by
    cases name
    cases other
    simp_all
  cases status <;> cases otherStatus <;> simp at rests
  · exact ⟨rfl, rests⟩
  · exact ⟨rfl, rests⟩

def reprItems (items : List (Sigma fun _ : CheckName => Bool)) : Text :=
  ", ".toList.intercalate (items.map reprCheck) ++ [']']

def afterItem : List (Sigma fun _ : CheckName => Bool) → Text
  | [] => [']']
  | next :: items => ", ".toList ++ reprItems (next :: items)

theorem reprItems_cons (item : Sigma fun _ : CheckName => Bool)
    (items : List (Sigma fun _ : CheckName => Bool)) :
    reprItems (item :: items) = reprCheck item ++ afterItem items := by
  unfold reprItems
  cases items with
  | nil => simp only [List.map_cons, List.map_nil, List.intercalate_singleton, afterItem]
  | cons next items =>
      simp only [List.map_cons, List.intercalate_cons_cons, List.append_assoc, afterItem,
        reprItems]

theorem reprItems_cons_ne_nil (item : Sigma fun _ : CheckName => Bool)
    (items : List (Sigma fun _ : CheckName => Bool)) :
    reprItems (item :: items) ≠ reprItems [] := by
  rw [reprItems_cons]
  simp [reprCheck, reprItems]

theorem reprItems_injective : Function.Injective reprItems := by
  intro items
  induction items with
  | nil =>
      intro others same
      cases others with
      | nil => rfl
      | cons other others => exact absurd same.symm (reprItems_cons_ne_nil other others)
  | cons item items ih =>
      intro others same
      cases others with
      | nil => exact absurd same (reprItems_cons_ne_nil item items)
      | cons other others =>
          rw [reprItems_cons, reprItems_cons] at same
          obtain ⟨rfl, rests⟩ := reprCheck_append same
          cases items with
          | nil =>
              cases others with
              | nil => rfl
              | cons next others => simp [afterItem] at rests
          | cons next items =>
              cases others with
              | nil => simp [afterItem] at rests
              | cons after others => rw [ih (List.append_cancel_left rests)]

theorem isChecksPassed_of_state {checks others : Checks}
    (same : getStateFromChecks checks = getStateFromChecks others) :
    isChecksPassed checks = isChecksPassed others := by
  have items : sortedItems checks = sortedItems others :=
    reprItems_injective (List.cons.inj same).2
  have permuted : checks.entries.Perm others.entries :=
    ((List.mergeSort_perm _ _).symm.trans (.of_eq items)).trans (List.mergeSort_perm _ _)
  exact permuted.all_eq

/-! ### Calls -/

/-- A call of `notify_checks` or of `notify_balance`. -/
inductive Call (β : Type) where
  | checks (schainName : Text) (node : NodeInfo) (results : Checks) (delivery : Delivery)
  | balance (node : NodeInfo) (amount requiredBalance : β) (delivery : Delivery)

namespace Call

variable {β : Type}

def subject : Call β → Subject
  | checks schainName _ _ _ => .schain schainName
  | balance _ _ _ _ => .balance

def delivery : Call β → Delivery
  | checks _ _ _ delivery => delivery
  | balance _ _ _ delivery => delivery

variable [LT β] [DecidableLT β]

def state : Call β → Text
  | checks _ _ results _ => getStateFromChecks results
  | balance _ amount requiredBalance _ => str (balanceState amount requiredBalance)

def message (format : β → Text) : Call β → Message
  | checks schainName node results _ => composeChecksMessage schainName node results
  | balance node amount requiredBalance _ =>
      composeBalanceMessage format node amount requiredBalance

variable (expiration : Nat) (format : β → Text)

def body : Call β → NotifyM Unit
  | checks schainName node results delivery =>
      notifyChecks expiration schainName node results delivery
  | balance node amount requiredBalance delivery =>
      notifyBalance format node amount requiredBalance delivery

end Call

def NotifyM.play {α : Type} (body : NotifyM α) (world : World) : Except Exception α × World :=
  (ExceptT.run body).run world

def Call.run {β : Type} [LT β] [DecidableLT β] (call : Call β) (expiration : Nat)
    (format : β → Text) (store : Store) : World :=
  (NotifyM.play (notificationsEnabled true (call.body expiration format)) ⟨store, []⟩).2

/-! ### What a body does -/

namespace NotifyM

variable {α : Type} {world : World} {key value : Text}

theorem play_get_bind (next : Option Text → NotifyM α) :
    play (get key >>= next) world = play (next ((world.store key).map Entry.value)) world :=
  rfl

theorem play_set (ex : Option Nat) : play (set key value ex) world =
    (.ok (), { world with store := Function.update world.store key (some ⟨value, ex⟩) }) :=
  rfl

theorem play_set_bind (ex : Option Nat) (next : Unit → NotifyM α) :
    play (set key value ex >>= next) world = play (next ())
      { world with store := Function.update world.store key (some ⟨value, ex⟩) } :=
  rfl

theorem play_getInt_absent {default : Int} (absent : world.store key = none)
    (next : Int → NotifyM α) :
    play (getInt key default >>= next) world = play (next default) world := by
  simp only [getInt, bind_assoc, play_get_bind, absent, Option.map_none, pure_bind]

theorem play_getInt_present {default number : Int}
    (present : (world.store key).map Entry.value = some (str number))
    (next : Int → NotifyM α) :
    play (getInt key default >>= next) world = play (next number) world := by
  simp only [getInt, bind_assoc, play_get_bind, present]
  cases text : str number with
  | nil => exact absurd text (str_ne_nil number)
  | cons symbol rest =>
      have parsed := parseInt_str number
      rw [text] at parsed
      simp only [parsed, pure_bind]

theorem play_notificationsEnabled (body : NotifyM Unit) :
    (play (notificationsEnabled true body) world).2 = (play body world).2 := by
  unfold notificationsEnabled play
  rw [if_pos rfl]
  simp only [ExceptT.run, tryCatch, tryCatchThe, MonadExceptOf.tryCatch, ExceptT.tryCatch,
    ExceptT.mk, StateT.run_bind]
  generalize StateT.run body world = ended
  obtain ⟨result, after⟩ := ended
  cases result with
  | ok result => rfl
  | error error => rfl

theorem play_sendMessage_raises {delivery : Delivery} {message : Message}
    (raises : delivery.raises = true) (next : Unit → NotifyM α) :
    play (sendMessage delivery message >>= next) world = (.error .sendError, world) := by
  unfold sendMessage
  rw [if_pos raises]
  rfl

theorem play_sendMessage_delivers {delivery : Delivery} {message : Message}
    (delivers : delivery.raises = false) (next : Unit → NotifyM α) :
    play (sendMessage delivery message >>= next) world = play (next ())
      { world with sent := world.sent ++ [delivery.lines message] } := by
  unfold sendMessage
  rw [if_neg (by simp [delivers])]
  rfl

end NotifyM

/-- What the store says of the subject: the state that was sent last, and that it was. -/
def Noted (store : Store) (subject : Subject) : Option Text → Prop
  | none => store subject.stateKey = none ∧ store subject.countKey = none
  | some state => (store subject.stateKey).map Entry.value = some state ∧
      (∃ count : Int, 1 ≤ count ∧
        (store subject.countKey).map Entry.value = some (str count)) ∧
      (subject = .balance → ∃ number : Int, state = str number)

structure Notes (subject : Subject) (state : Text) (before after : Store) : Prop where
  noted : Noted after subject (some state)
  others : ∀ key, key ≠ subject.countKey → key ≠ subject.stateKey → after key = before key

section Notes

variable {subject : Subject} {state : Text} {store : Store} {count : Int}

theorem notes_update (ex expires : Option Nat) (positive : 1 ≤ count)
    (numeral : subject = .balance → ∃ number : Int, state = str number) :
    Notes subject state store
      (Function.update (Function.update store subject.stateKey (some ⟨state, ex⟩))
        subject.countKey (some ⟨str count, expires⟩)) where
  noted := by
    refine ⟨?_, ⟨count, positive, ?_⟩, numeral⟩
    · rw [Function.update_of_ne (Subject.countKey_ne_stateKey subject subject).symm,
        Function.update_self, Option.map_some]
    · rw [Function.update_self, Option.map_some]
  others key notCount notState := by
    rw [Function.update_of_ne notCount, Function.update_of_ne notState]

theorem notes_count (noted : Noted store subject (some state)) (expires : Option Nat)
    (positive : 1 ≤ count) : Notes subject state store
      (Function.update store subject.countKey (some ⟨str count, expires⟩)) where
  noted := by
    refine ⟨?_, ⟨count, positive, ?_⟩, noted.2.2⟩
    · rw [Function.update_of_ne (Subject.countKey_ne_stateKey subject subject).symm]
      exact noted.1
    · rw [Function.update_self, Option.map_some]
  others key notCount _ := Function.update_of_ne notCount _ _

end Notes

namespace Call

variable {β : Type} [LT β] [DecidableLT β] (call : Call β) (format : β → Text)

/-- What comes of a call when `last` is the state that was sent last. -/
inductive Effect (store : Store) (last : Option Text) : World → Prop
  | again {after : Store} (same : last = some call.state)
      (notes : Notes call.subject call.state store after) : Effect store last ⟨after, []⟩
  | fails (changed : last ≠ some call.state) (raises : call.delivery.raises = true) :
      Effect store last ⟨store, []⟩
  | sends {after : Store} (changed : last ≠ some call.state)
      (delivers : call.delivery.raises = false)
      (notes : Notes call.subject call.state store after) :
      Effect store last ⟨after, [call.delivery.lines (call.message format)]⟩

end Call

theorem not_attempts (success : Bool) {count : Int} (positive : 1 ≤ count) :
    ¬(success ∧ count < SUCCESS_MAX_ATTEMPS ∨ ¬success ∧ count < FAILED_MAX_ATTEMPS) := by
  unfold SUCCESS_MAX_ATTEMPS FAILED_MAX_ATTEMPS
  omega

section Checks

variable (expiration : Nat) (schainName : Text) (node : NodeInfo) (results : Checks)
  (delivery : Delivery) {store : Store} {last : Option Text}

theorem play_notifyChecks (noted : Noted store (.schain schainName) last) :
    ∃ count : Int, (last = some (getStateFromChecks results) → 1 ≤ count) ∧
      NotifyM.play (notifyChecks expiration schainName node results delivery) ⟨store, []⟩ =
        NotifyM.play (do
          if last.getD [] ≠ getStateFromChecks results ∨
              (isChecksPassed results ∧ count < SUCCESS_MAX_ATTEMPS ∨
                ¬isChecksPassed results ∧ count < FAILED_MAX_ATTEMPS) then
            sendMessage delivery (composeChecksMessage schainName node results)
          if last.getD [] ≠ getStateFromChecks results then
            set (checksStateKey schainName) (getStateFromChecks results)
              (if isChecksPassed results then none else some expiration)
            set (checksCountKey schainName) (str 1) none
          else
            set (checksCountKey schainName) (str (count + 1)) none) ⟨store, []⟩ := by
  cases last with
  | none =>
      have absent : store (checksStateKey schainName) = none := noted.1
      refine ⟨0, by simp, ?_⟩
      simp only [notifyChecks, NotifyM.play_get_bind, absent, Option.map_none,
        Option.getD_none, ne_eq, not_true_eq_false, if_false, pure_bind]
  | some saved =>
      obtain ⟨stated, ⟨count, positive, counted⟩, -⟩ := noted
      have present : (store (checksStateKey schainName)).map Entry.value = some saved := stated
      by_cases empty : saved = []
      · subst empty
        refine ⟨0, fun same => absurd (Option.some.inj same) (by simp [getStateFromChecks]), ?_⟩
        simp only [notifyChecks, NotifyM.play_get_bind, present,
          Option.getD_some, ne_eq, not_true_eq_false, if_false, pure_bind]
      · refine ⟨count, fun _ => positive, ?_⟩
        simp only [notifyChecks, NotifyM.play_get_bind, present, Option.getD_some, ne_eq,
          empty, not_false_eq_true, if_true]
        rw [NotifyM.play_getInt_present counted]

theorem effect_notifyChecks {β : Type} [LT β] [DecidableLT β] {format : β → Text}
    (noted : Noted store (.schain schainName) last) :
    (Call.checks schainName node results delivery).Effect format store last
      (NotifyM.play (notifyChecks expiration schainName node results delivery)
        ⟨store, []⟩).2 := by
  obtain ⟨count, positive, played⟩ :=
    play_notifyChecks expiration schainName node results delivery noted
  rw [played]
  by_cases same : last = some (getStateFromChecks results)
  · subst same
    have attempts := not_attempts (isChecksPassed results) (positive rfl)
    simp only [Option.getD_some, ne_eq, not_true_eq_false, false_or, if_neg attempts, if_false]
    exact .again rfl (notes_count noted none (by have := positive rfl; omega))
  · have changed : last.getD [] ≠ getStateFromChecks results := by
      cases last with
      | none => exact fun equal => absurd equal.symm (List.cons_ne_nil _ _)
      | some saved => exact fun equal => same (congrArg some equal)
    rw [if_pos (.inl changed), if_pos changed]
    cases raises : delivery.raises with
    | true =>
        rw [NotifyM.play_sendMessage_raises raises]
        exact .fails same raises
    | false =>
        rw [NotifyM.play_sendMessage_delivers raises, NotifyM.play_set_bind, NotifyM.play_set]
        exact .sends same raises (notes_update _ none (Int.le_refl 1) nofun)

end Checks

section Balance

variable {β : Type} [LT β] [DecidableLT β] (format : β → Text) (node : NodeInfo)
  (amount requiredBalance : β) (delivery : Delivery) {store : Store} {last : Option Text}

theorem play_notifyBalance (noted : Noted store .balance last) :
    ∃ count saved : Int, (last = none → saved = -1) ∧
      (∀ state, last = some state → 1 ≤ count ∧ state = str saved) ∧
      NotifyM.play (notifyBalance format node amount requiredBalance delivery) ⟨store, []⟩ =
        NotifyM.play (do
          let state := balanceState amount requiredBalance
          if saved ≠ state ∨
              (decide (requiredBalance < amount) ∧ count < SUCCESS_MAX_ATTEMPS ∨
                ¬decide (requiredBalance < amount) ∧ count < FAILED_MAX_ATTEMPS) then
            sendMessage delivery (composeBalanceMessage format node amount requiredBalance)
          set balanceCountKey (str (if saved ≠ state then 1 else count + 1)) none
          set balanceStateKey (str state) none) ⟨store, []⟩ := by
  cases last with
  | none =>
      refine ⟨0, -1, fun _ => rfl, nofun, ?_⟩
      unfold notifyBalance
      rw [NotifyM.play_getInt_absent noted.2, NotifyM.play_getInt_absent noted.1]
  | some saved =>
      obtain ⟨stated, ⟨count, positive, counted⟩, numeral⟩ := noted
      obtain ⟨number, rfl⟩ := numeral rfl
      refine ⟨count, number, nofun, ?_, ?_⟩
      · intro state same
        cases same
        exact ⟨positive, rfl⟩
      · unfold notifyBalance
        rw [NotifyM.play_getInt_present counted, NotifyM.play_getInt_present stated]

theorem effect_notifyBalance (noted : Noted store .balance last) :
    (Call.balance node amount requiredBalance delivery).Effect format store last
      (NotifyM.play (notifyBalance format node amount requiredBalance delivery)
        ⟨store, []⟩).2 := by
  obtain ⟨count, saved, fresh, known, played⟩ :=
    play_notifyBalance format node amount requiredBalance delivery noted
  rw [played]
  have distinct : balanceCountKey ≠ balanceStateKey :=
    Subject.countKey_ne_stateKey .balance .balance
  by_cases same : last = some (str (balanceState amount requiredBalance))
  · obtain ⟨positive, equal⟩ := known _ same
    obtain rfl := str_injective equal
    have attempts := not_attempts (decide (requiredBalance < amount)) positive
    simp only [ne_eq, not_true_eq_false, false_or, if_neg attempts, if_false]
    rw [NotifyM.play_set_bind, NotifyM.play_set]
    dsimp only
    rw [Function.update_comm distinct]
    exact .again same (notes_update none none (by omega) fun _ => ⟨_, rfl⟩)
  · have changed : saved ≠ balanceState amount requiredBalance := by
      intro equal
      cases last with
      | none =>
          rw [fresh rfl] at equal
          unfold balanceState at equal
          split at equal <;> omega
      | some state => exact same (by rw [(known state rfl).2, equal])
    rw [if_pos (.inl changed), if_pos changed]
    cases raises : delivery.raises with
    | true =>
        rw [NotifyM.play_sendMessage_raises raises]
        exact .fails same raises
    | false =>
        rw [NotifyM.play_sendMessage_delivers raises, NotifyM.play_set_bind, NotifyM.play_set]
        dsimp only
        rw [Function.update_comm distinct]
        exact .sends same raises (notes_update none none (Int.le_refl 1) fun _ => ⟨_, rfl⟩)

end Balance

theorem Call.effect {β : Type} [LT β] [DecidableLT β] (expiration : Nat) (format : β → Text)
    (call : Call β) {store : Store} {last : Option Text}
    (noted : Noted store call.subject last) :
    call.Effect format store last (call.run expiration format store) := by
  unfold Call.run
  rw [NotifyM.play_notificationsEnabled]
  cases call with
  | checks schainName node results delivery =>
      exact effect_notifyChecks expiration schainName node results delivery noted
  | balance node amount requiredBalance delivery =>
      exact effect_notifyBalance format node amount requiredBalance delivery noted

/-! ### Sequences of calls -/

/-- The store, and the state of the last message about each subject that was sent. -/
structure Ledger where
  store : Store
  lastSent : Subject → Option Text

/-- `messages.*` is removed at the start. -/
def Ledger.start (store : Store) : Ledger where
  store := cleanupNotificationState store
  lastSent _ := none

def WordedAsFailing : Subject → Message → Prop
  | .schain _, message => message[2]? = some checksFailed
  | .balance, message => message[0]? = some balanceTooLow

def FailingState : Subject → Text → Prop
  | .schain _, state =>
      ∃ results, isChecksPassed results = false ∧ state = getStateFromChecks results
  | .balance, state => state = str 0

section Runs

variable {β : Type} [LT β] [DecidableLT β] (expiration : Nat) (format : β → Text)

namespace Ledger

def step (ledger : Ledger) (call : Call β) : Ledger :=
  let world := call.run expiration format ledger.store
  { store := world.store
    lastSent :=
      if world.sent = [] then ledger.lastSent
      else Function.update ledger.lastSent call.subject (some call.state) }

def after (ledger : Ledger) (calls : List (Call β)) : Ledger :=
  calls.foldl (step expiration format) ledger

/-- One message for each change of the state, worded as the state that is saved with it. -/
structure Law (ledger : Ledger) (call : Call β) : Prop where
  sends : (call.run expiration format ledger.store).sent ≠ [] ↔
    call.delivery.raises = false ∧ ledger.lastSent call.subject ≠ some call.state
  once : (call.run expiration format ledger.store).sent.length ≤ 1
  worded : ∀ message ∈ (call.run expiration format ledger.store).sent,
    ∃ saved, ((call.run expiration format ledger.store).store call.subject.stateKey).map
        Entry.value = some saved ∧
      (WordedAsFailing call.subject message ↔ FailingState call.subject saved)

def Consistent (ledger : Ledger) : Prop :=
  ∀ subject, Noted ledger.store subject (ledger.lastSent subject)

end Ledger

/-- The amounts are neither below nor above each other. -/
def Call.Undecided : Call β → Prop
  | .checks _ _ _ _ => False
  | .balance _ amount requiredBalance _ => amount < requiredBalance ↔ requiredBalance < amount

def lastDelivered (subject : Subject) (calls : List (Call β)) : Option Text :=
  ((calls.filter fun call => decide (call.subject = subject) && !call.delivery.raises).getLast?).map
    Call.state

/-- A message about amounts that are equal is due only when the state was the same before. -/
def NoUndecidedChange (calls : List (Call β)) : Prop :=
  ∀ front call, front ++ [call] <+: calls → call.Undecided → call.delivery.raises = false →
    lastDelivered call.subject front = some call.state

variable {expiration format} {ledger : Ledger}

theorem Ledger.consistent_start (store : Store) : (Ledger.start store).Consistent := by
  intro subject
  have removed (key : Text) (listed : "messages.".toList <+: key) :
      (Ledger.start store).store key = none :=
    if_pos (List.isPrefixOf_iff_prefix.mpr listed)
  have start : "messages.checks.".toList = "messages.".toList ++ "checks.".toList := by decide
  cases subject with
  | schain name =>
      constructor
      · apply removed
        change _ <+: checksStateKey name
        unfold checksStateKey
        rw [start, List.append_assoc, List.append_assoc]
        exact List.prefix_append _ _
      · apply removed
        change _ <+: checksCountKey name
        unfold checksCountKey
        rw [start, List.append_assoc, List.append_assoc]
        exact List.prefix_append _ _
  | balance =>
      constructor
      · exact removed _ (List.isPrefixOf_iff_prefix.mp (by decide))
      · exact removed _ (List.isPrefixOf_iff_prefix.mp (by decide))

theorem Noted.of_others {store after : Store} {subject other : Subject} {state : Text}
    {last : Option Text} (noted : Noted store other last) (different : other ≠ subject)
    (notes : Notes subject state store after) : Noted after other last := by
  have stated : after other.stateKey = store other.stateKey :=
    notes.others _ (Subject.countKey_ne_stateKey _ _).symm
      (Subject.stateKey_injective.ne different)
  have counted : after other.countKey = store other.countKey :=
    notes.others _ (Subject.countKey_injective.ne different)
      (Subject.countKey_ne_stateKey _ _)
  cases last with
  | none => exact ⟨stated.trans noted.1, counted.trans noted.2⟩
  | some saved =>
      unfold Noted
      rw [stated, counted]
      exact noted

theorem Ledger.Consistent.step (expiration : Nat) (format : β → Text)
    (consistent : ledger.Consistent) (call : Call β) :
    (ledger.step expiration format call).Consistent ∧
      (ledger.step expiration format call).lastSent =
        if call.delivery.raises then ledger.lastSent
        else Function.update ledger.lastSent call.subject (some call.state) := by
  unfold Ledger.step
  have effect := call.effect expiration format (consistent call.subject)
  generalize call.run expiration format ledger.store = world at effect
  cases effect with
  | again same notes =>
      have kept : Function.update ledger.lastSent call.subject (some call.state) =
          ledger.lastSent := by
        rw [← same]
        exact Function.update_eq_self call.subject ledger.lastSent
      refine ⟨?_, by simp [kept]⟩
      intro subject
      by_cases about : subject = call.subject
      · subst about
        simpa [same] using notes.noted
      · exact (consistent subject).of_others about notes
  | fails changed raises => exact ⟨consistent, by simp [raises]⟩
  | sends changed delivers notes =>
      refine ⟨?_, by simp [delivers]⟩
      intro subject
      by_cases about : subject = call.subject
      · subst about
        simpa using notes.noted
      · simpa [Function.update_of_ne about] using (consistent subject).of_others about notes

theorem Ledger.after_append (calls : List (Call β)) (call : Call β) :
    ledger.after expiration format (calls ++ [call]) =
      (ledger.after expiration format calls).step expiration format call := by
  unfold Ledger.after
  rw [List.foldl_append, List.foldl_cons, List.foldl_nil]

theorem Ledger.consistent_after (expiration : Nat) (format : β → Text) (store : Store)
    (calls : List (Call β)) :
    ((Ledger.start store).after expiration format calls).Consistent ∧
      ∀ subject, ((Ledger.start store).after expiration format calls).lastSent subject =
        lastDelivered subject calls := by
  induction calls using List.reverseRecOn with
  | nil => exact ⟨Ledger.consistent_start store, fun _ => rfl⟩
  | append_singleton calls call ih =>
      obtain ⟨consistent, latest⟩ := ih
      have stepped := consistent.step expiration format call
      rw [Ledger.after_append]
      refine ⟨stepped.1, ?_⟩
      intro subject
      rw [stepped.2]
      cases raises : call.delivery.raises with
      | true =>
          rw [if_pos rfl, latest]
          unfold lastDelivered
          rw [List.filter_append]
          simp [raises]
      | false =>
          rw [if_neg (by simp)]
          by_cases about : subject = call.subject
          · subst about
            simp [lastDelivered, List.filter_append, raises]
          · have other : call.subject ≠ subject := fun same => about same.symm
            rw [Function.update_of_ne about, latest]
            simp [lastDelivered, List.filter_append, other]

/-! ### The wording -/

namespace Call

def Warns : Call β → Prop
  | checks _ _ results _ => isChecksPassed results = false
  | balance _ amount requiredBalance _ => amount < requiredBalance

def Failing : Call β → Prop
  | checks _ _ results _ => isChecksPassed results = false
  | balance _ amount requiredBalance _ => ¬requiredBalance < amount

theorem greenLight_ne (first second : Text) :
    GREEN_LIGHT ++ first ≠ EXCLAMATION_MARK ++ second := by
  unfold GREEN_LIGHT EXCLAMATION_MARK
  simp only [String.reduceToList]
  exact fun same => absurd (List.cons.inj same).1 (by decide)

theorem wordedAsFailing_iff (call : Call β) :
    WordedAsFailing call.subject (call.delivery.lines (call.message format)) ↔ call.Warns := by
  cases call with
  | checks schainName node results delivery =>
      change (composeChecksMessage schainName node results ++ _)[2]? = _ ↔
        isChecksPassed results = false
      unfold composeChecksMessage
      cases passed : isChecksPassed results with
      | true =>
          refine iff_of_false ?_ (by simp)
          intro same
          exact greenLight_ne _ _ (List.cons.inj (Option.some.inj same)).2
      | false => exact iff_of_true rfl rfl
  | balance node amount requiredBalance delivery =>
      change (composeBalanceMessage format node amount requiredBalance ++ _)[0]? = _ ↔
        amount < requiredBalance
      unfold composeBalanceMessage
      by_cases low : amount < requiredBalance
      · rw [if_pos low]
        exact iff_of_true rfl low
      · rw [if_neg low]
        refine iff_of_false ?_ low
        intro same
        exact greenLight_ne _ _ (Option.some.inj same)

theorem failingState_iff (call : Call β) :
    FailingState call.subject call.state ↔ call.Failing := by
  cases call with
  | checks schainName node results delivery =>
      constructor
      · rintro ⟨others, failed, same⟩
        exact (isChecksPassed_of_state same).trans failed
      · intro failed
        exact ⟨results, failed, rfl⟩
  | balance node amount requiredBalance delivery =>
      change str (balanceState amount requiredBalance) = str 0 ↔ ¬requiredBalance < amount
      rw [str_injective.eq_iff]
      unfold balanceState
      split <;> simp_all

theorem warns_iff_failing (call : Call β) : (call.Warns ↔ call.Failing) ↔ ¬call.Undecided := by
  cases call with
  | checks schainName node results delivery => exact iff_of_true Iff.rfl not_false
  | balance node amount requiredBalance delivery =>
      change (amount < requiredBalance ↔ ¬requiredBalance < amount) ↔
        ¬(amount < requiredBalance ↔ requiredBalance < amount)
      tauto

end Call

theorem Ledger.Consistent.law_iff (consistent : ledger.Consistent) (call : Call β) :
    ledger.Law expiration format call ↔ (call.Undecided → call.delivery.raises = false →
      ledger.lastSent call.subject = some call.state) := by
  have effect := call.effect expiration format (consistent call.subject)
  constructor
  · intro law undecided delivers
    by_contra changed
    generalize ran : call.run expiration format ledger.store = world at effect
    cases effect with
    | again same notes => exact changed same
    | fails changed raises => simp [delivers] at raises
    | sends changed delivers notes =>
        obtain ⟨saved, stated, worded⟩ :=
          law.worded _ (by rw [ran]; exact List.mem_singleton_self _)
        rw [ran, notes.noted.1] at stated
        cases stated
        rw [call.wordedAsFailing_iff, call.failingState_iff] at worded
        exact call.warns_iff_failing.mp worded undecided
  · intro settled
    generalize ran : call.run expiration format ledger.store = world at effect
    cases effect with
    | again same notes =>
        constructor <;> rw [ran]
        · simp [same]
        · simp
        · simp
    | fails changed raises =>
        constructor <;> rw [ran]
        · simp [raises]
        · simp
        · simp
    | sends changed delivers notes =>
        constructor <;> rw [ran]
        · simp [changed, delivers]
        · simp
        · intro message sent
          obtain rfl := List.mem_singleton.mp sent
          refine ⟨call.state, notes.noted.1, ?_⟩
          rw [call.wordedAsFailing_iff, call.failingState_iff, call.warns_iff_failing]
          exact fun undecided => changed (settled undecided delivers)

/-- What is sent is one message for each change, as long as no change is to equal amounts. -/
theorem notifications_law_iff (expiration : Nat) (format : β → Text) (store : Store)
    (calls : List (Call β)) :
    (∀ front call, front ++ [call] <+: calls →
      ((Ledger.start store).after expiration format front).Law expiration format call) ↔
      NoUndecidedChange calls := by
  unfold NoUndecidedChange
  refine forall_congr' fun front => forall_congr' fun call => forall_congr' fun _ => ?_
  obtain ⟨consistent, latest⟩ :=
    Ledger.consistent_after expiration format store front
  rw [consistent.law_iff, latest]

end Runs

def quiet : Delivery := { raises := false, timestamp := 0, datetime := [] }

def equalAmounts : Call Int := .balance { nodeId := 1, nodeIp := "1.1.1.1".toList } 5 5 quiet

/-- The message says that there is enough, and the state that is saved is the low one. -/
theorem equalAmounts_breaks : ¬∀ front call, front ++ [call] <+: [equalAmounts] →
    ((Ledger.start fun _ => none).after 86400 str front).Law 86400 str call := by
  intro law
  have consistent := (Ledger.consistent_after 86400 str (fun _ => none) ([] : List (Call Int))).1
  have settled := (consistent.law_iff _).mp (law [] equalAmounts (List.prefix_refl _))
  exact absurd (settled Iff.rfl rfl) (by simp [Ledger.after, Ledger.start])

end SkaleAdmin.Notifications
