import Mathlib.Data.List.Induction
import Mathlib.Data.List.Infix
import TrustZone.Lib.TopicFilter
import TrustZone.Mqtt.Proof.SubscriptionManager
import TrustZone.OtaDemo.Routing

/-!
# Every message to one callback

The list holds, besides the default filter, the callbacks of the topics that are subscribed, each once: two
for a job topic, whose filter and the default filter it matches, and one for a stream topic
(`Holds`, `complete_holds`). A publish then comes to the callback that it is meant for, once
(`ota_routing`).
-/

namespace OtaDemo

open Lib Mqtt

/-! ## Topics -/

/-- A part of a topic: no wildcards in it, and no NUL. -/
@[ext] structure TopicPart where
  bytes : List UInt8
  nul : 0 ∉ bytes
  single : 0x2B ∉ bytes
  multi : 0x23 ∉ bytes
  deriving DecidableEq

/-- A thing name, which is one level of a topic. -/
@[ext] structure ThingName extends TopicPart where
  slash : 0x2F ∉ bytes
  deriving DecidableEq

/-- The topics that the OTA agent subscribes to. -/
inductive OtaTopic
  | notifyNext (name : ThingName)
  | stream (name : ThingName) (rest : TopicPart)
  deriving DecidableEq

/-- `$aws/things/<name>/<rest>`. -/
def thingTopic (name rest : List UInt8) : List UInt8 :=
  ascii "$aws/things/" ++ (name ++ 0x2F :: rest)

def OtaTopic.rest : OtaTopic → List UInt8
  | .notifyNext _ => ascii "jobs/notify-next"
  | .stream _ rest => ascii "streams/" ++ rest.bytes

def OtaTopic.name : OtaTopic → ThingName
  | .notifyNext name => name
  | .stream name _ => name

/-- `$aws/things/<name>/jobs/notify-next` and `$aws/things/<name>/streams/<rest>`. -/
def OtaTopic.str (t : OtaTopic) : List UInt8 := thingTopic t.name.bytes t.rest

/-- `$aws/things/<name>/jobs/$next/get/accepted`. -/
def acceptedTopic (name : ThingName) : List UInt8 :=
  thingTopic name.bytes (ascii "jobs/$next/get/accepted")

theorem levels_thingTopic {name : List UInt8} (hname : 0x2F ∉ name) (rest : List UInt8) :
    levels (thingTopic name rest) = ascii "$aws" :: ascii "things" :: name :: levels rest := by
  have hhead : ascii "$aws/things/" = ascii "$aws" ++ 0x2F :: (ascii "things" ++ [0x2F]) := by decide
  unfold thingTopic
  rw [hhead, List.append_assoc, List.cons_append, levels_cons (by decide), List.append_assoc,
    List.singleton_append, levels_cons (by decide), levels_cons hname]

theorem levels_stream (rest : List UInt8) :
    levels (ascii "streams/" ++ rest) = ascii "streams" :: levels rest := by
  have hhead : ascii "streams/" = ascii "streams" ++ [0x2F] := by decide
  rw [hhead, List.append_assoc, List.singleton_append, levels_cons (by decide)]

/-- A filter of the registry looks past the thing name. -/
theorem topicMatches_thing {name : List UInt8} (hname : 0x2F ∉ name) (rest filter : List UInt8) :
    topicMatches (thingTopic name rest) (otaexampleTopicPrefix ++ filter) =
      levelsMatch (levels rest) (levels filter) := by
  have hhead : otaexampleTopicPrefix =
      ascii "$aws" ++ 0x2F :: (ascii "things" ++ 0x2F :: (singleLevel ++ [0x2F])) := by decide
  have hfilter : levels (otaexampleTopicPrefix ++ filter) =
      ascii "$aws" :: ascii "things" :: singleLevel :: levels filter := by
    rw [hhead, List.append_assoc, List.cons_append, levels_cons (by decide), List.append_assoc,
      List.cons_append, levels_cons (by decide), List.append_assoc, List.singleton_append,
      levels_cons (by decide)]
  have hdollar : (otaexampleTopicPrefix ++ filter).head? = some 0x24 := rfl
  unfold topicMatches
  have hwild : ¬(singleLevel = multiLevel ∧ levels filter = []) := fun h => absurd h.1 (by decide)
  rw [hdollar, decide_eq_false fun h => absurd h.2 (by decide), Bool.not_false, Bool.true_and,
    levels_thingTopic hname, hfilter, levelsMatch_cons (by decide) (by decide),
    levelsMatch_cons (by decide) (by decide), decide_eq_true rfl, decide_eq_true rfl, Bool.true_and,
    Bool.true_and, levelsMatch, if_neg hwild]
  simp

theorem OtaTopic.levels_str (t : OtaTopic) :
    levels t.str = ascii "$aws" :: ascii "things" :: t.name.bytes :: levels t.rest :=
  levels_thingTopic t.name.slash t.rest

theorem OtaTopic.str_inj {t t' : OtaTopic} (h : t.str = t'.str) : t = t' := by
  have hlevels := congrArg levels h
  rw [levels_str, levels_str, List.cons.injEq, List.cons.injEq, List.cons.injEq] at hlevels
  obtain ⟨-, -, hname, hrest⟩ := hlevels
  have hrest := levels_inj hrest
  have hname : t.name = t'.name := ThingName.ext hname
  cases t with
  | notifyNext name =>
    cases t' with
    | notifyNext name' => exact congrArg OtaTopic.notifyNext hname
    | stream name' rest' =>
      have hhead : some (0x6A : UInt8) = some 0x73 := congrArg List.head? hrest
      exact absurd hhead (by decide)
  | stream name rest =>
    cases t' with
    | notifyNext name' =>
      have hhead : some (0x73 : UInt8) = some 0x6A := congrArg List.head? hrest
      exact absurd hhead (by decide)
    | stream name' rest' =>
      have hbytes : rest.bytes = rest'.bytes := List.append_cancel_left hrest
      exact congr (congrArg OtaTopic.stream hname) (TopicPart.ext hbytes)

/-! ## What a topic registers -/

/-- The callbacks that a topic is registered with. -/
def OtaTopic.callbacks : OtaTopic → List IncomingPubCallback
  | .notifyNext _ => [.prvMqttJobCallback, .prvMqttDefaultCallback]
  | .stream _ _ => [.prvMqttDataCallback]

theorem OtaTopic.str_ne (t : OtaTopic) : t.str ≠ [] := by
  unfold str thingTopic
  exact List.cons_ne_nil _ _

/-- The subscriptions of a topic. -/
def OtaTopic.elements (t : OtaTopic) : List (SubscriptionElement IncomingPubCallback) :=
  t.callbacks.map fun xCallback => ⟨t.str, xCallback, none, t.str_ne⟩

/-- The subscription of the default filter. -/
def defaultElement : SubscriptionElement IncomingPubCallback :=
  ⟨otaexampleDefaultTopicFilter, .prvMqttDefaultCallback, none, by decide⟩

theorem OtaTopic.str_strings (t : OtaTopic) : 0 ∉ t.str ∧ 0x2B ∉ t.str ∧ 0x23 ∉ t.str := by
  have hname := t.name.nul
  have hname₁ := t.name.single
  have hname₂ := t.name.multi
  have hhead : ∀ b ∈ [0, 0x2B, 0x23], b ∉ ascii "$aws/things/" ∧ b ∉ ascii "jobs/notify-next" ∧
      b ∉ ascii "streams/" ∧ b ≠ (0x2F : UInt8) := by decide +kernel
  obtain ⟨h₁, h₂, h₃, h₄⟩ := hhead 0 (by decide)
  obtain ⟨k₁, k₂, k₃, k₄⟩ := hhead 0x2B (by decide)
  obtain ⟨m₁, m₂, m₃, m₄⟩ := hhead 0x23 (by decide)
  cases t with
  | notifyNext name => simp_all [str, thingTopic, OtaTopic.rest, OtaTopic.name]
  | stream name rest =>
    simp_all [str, thingTopic, OtaTopic.rest, OtaTopic.name, rest.nul, rest.single, rest.multi]

theorem levels_notifyNext : levels (ascii "jobs/notify-next") = [ascii "jobs", ascii "notify-next"] := by
  decide

theorem levels_allJobs : levels (ascii "jobs/#") = [ascii "jobs", multiLevel] := by decide

theorem levels_allStreams : levels (ascii "streams/#") = [ascii "streams", multiLevel] := by decide

theorem levels_accepted : levels (ascii "jobs/$next/get/accepted") =
    [ascii "jobs", ascii "$next", ascii "get", ascii "accepted"] := by
  decide

/-- A level and `#` match all that starts with the level. -/
theorem levelsMatch_all {f : List UInt8} (hs : f ≠ singleLevel) (hm : f ≠ multiLevel)
    (t : List UInt8) (ts : List (List UInt8)) :
    levelsMatch (t :: ts) [f, multiLevel] = decide (t = f) := by
  rw [levelsMatch_cons hs hm, levelsMatch_multi, Bool.and_true]

section
variable {name : List UInt8} (hname : 0x2F ∉ name)
include hname

theorem topicMatches_notifyNext (rest : List UInt8) :
    topicMatches (thingTopic name rest) otaexampleJobNotifyTopicFilter =
      decide (levels rest = [ascii "jobs", ascii "notify-next"]) := by
  have hplain : ∀ f ∈ [ascii "jobs", ascii "notify-next"], f ≠ singleLevel ∧ f ≠ multiLevel := by decide
  refine (topicMatches_thing hname _ _).trans (Bool.eq_iff_iff.2 ?_)
  rw [levels_notifyNext, levelsMatch_exact hplain, decide_eq_true_iff]

/-- The responses to job requests are those on the topic that the default callback looks for. -/
theorem topicMatches_accepted (rest : List UInt8) :
    topicMatches (thingTopic name rest) otaexampleJobAcceptedResponseTopicFilter =
      decide (levels rest = [ascii "jobs", ascii "$next", ascii "get", ascii "accepted"]) := by
  have hplain : ∀ f ∈ [ascii "jobs", ascii "$next", ascii "get", ascii "accepted"],
      f ≠ singleLevel ∧ f ≠ multiLevel := by decide
  refine (topicMatches_thing hname _ _).trans (Bool.eq_iff_iff.2 ?_)
  rw [levels_accepted, levelsMatch_exact hplain, decide_eq_true_iff]

theorem topicMatches_streams {rest level : List UInt8} {ls : List (List UInt8)}
    (h : levels rest = level :: ls) :
    topicMatches (thingTopic name rest) otaexampleDataStreamTopicFilter =
      decide (level = ascii "streams") := by
  refine (topicMatches_thing hname _ _).trans ?_
  rw [levels_allStreams, h, levelsMatch_all (by decide) (by decide)]

theorem topicMatches_jobs {rest level : List UInt8} {ls : List (List UInt8)}
    (h : levels rest = level :: ls) :
    topicMatches (thingTopic name rest) otaexampleDefaultTopicFilter =
      decide (level = ascii "jobs") := by
  refine (topicMatches_thing hname _ _).trans ?_
  rw [levels_allJobs, h, levelsMatch_all (by decide) (by decide)]

end

/-- The filters of the registry that a topic matches. -/
theorem matches_registry (t : OtaTopic) :
    (xOtaTopicFilterCallbacks.filter fun f => topicMatches t.str f.1).map (·.2) = t.callbacks := by
  cases t with
  | notifyNext name =>
    have hlevels : levels (OtaTopic.notifyNext name).rest = [ascii "jobs", ascii "notify-next"] :=
      levels_notifyNext
    have hnotify := topicMatches_notifyNext name.slash (OtaTopic.notifyNext name).rest
    have hstream := topicMatches_streams name.slash hlevels
    have hdefault := topicMatches_jobs name.slash hlevels
    rw [decide_eq_true hlevels] at hnotify
    rw [decide_eq_false (by decide)] at hstream
    rw [decide_eq_true rfl] at hdefault
    simp [xOtaTopicFilterCallbacks, OtaTopic.str, OtaTopic.name, hnotify, hstream, hdefault,
      OtaTopic.callbacks]
  | stream name rest =>
    have hlevels : levels (OtaTopic.stream name rest).rest = ascii "streams" :: levels rest.bytes :=
      levels_stream rest.bytes
    have hne : levels (OtaTopic.stream name rest).rest ≠ [ascii "jobs", ascii "notify-next"] := by
      rw [hlevels]
      intro h
      exact absurd (List.cons.inj h).1 (by decide)
    have hnotify := topicMatches_notifyNext name.slash (OtaTopic.stream name rest).rest
    have hstream := topicMatches_streams name.slash hlevels
    have hdefault := topicMatches_jobs name.slash hlevels
    rw [decide_eq_false hne] at hnotify
    rw [decide_eq_true rfl] at hstream
    rw [decide_eq_false (by decide)] at hdefault
    simp [xOtaTopicFilterCallbacks, OtaTopic.str, OtaTopic.name, hnotify, hstream, hdefault,
      OtaTopic.callbacks]

/-! ## What the list holds -/

/-- The topics that are subscribed, after a completion. -/
def nextTopics (topics : List OtaTopic) : Completion OtaTopic → List OtaTopic
  | .subscribed .success t => if t ∈ topics then topics else t :: topics
  | .unsubscribed .success t => topics.filter fun t' => t' ≠ t
  | _ => topics

/-- The topics that are subscribed after a history. -/
def subscribedAfter (cs : List (Completion OtaTopic)) : List OtaTopic := cs.foldl nextTopics []

/-- The slots that the default filter and these topics take. -/
def slotsNeeded (topics : List OtaTopic) : Nat := 1 + (topics.map (·.callbacks.length)).sum

/-- A completion, with the bytes of its topic. -/
def bytesOf : Completion OtaTopic → Completion (List UInt8)
  | .subscribed returnCode t => .subscribed returnCode t.str
  | .unsubscribed returnCode t => .unsubscribed returnCode t.str

/-- The subscriptions of the default filter and of these topics. -/
def elementsOf (topics : List OtaTopic) : List (SubscriptionElement IncomingPubCallback) :=
  defaultElement :: topics.flatMap OtaTopic.elements

/-- **The invariant**: the list holds the subscriptions of the default filter and of the topics. -/
structure Holds (n : Nat) (topics : List OtaTopic) (l : GlobalSubscriptionList) : Prop where
  length : l.length = n
  nodup : topics.Nodup
  perm : (subscriptions l).Perm (elementsOf topics)

theorem filter_of_mem_elements {t : OtaTopic} {e : SubscriptionElement IncomingPubCallback}
    (he : e ∈ t.elements) : e.pcSubscriptionFilterString = t.str := by
  obtain ⟨_, _, rfl⟩ := List.mem_map.1 he
  rfl

theorem default_ne_str (t : OtaTopic) : otaexampleDefaultTopicFilter ≠ t.str := by
  intro h
  have hplus : 0x2B ∈ otaexampleDefaultTopicFilter := by decide
  rw [h] at hplus
  exact t.str_strings.2.1 hplus

theorem elementsOf_length (topics : List OtaTopic) :
    (elementsOf topics).length = slotsNeeded topics := by
  have hlen : (OtaTopic.elements · |>.length) = fun t => t.callbacks.length :=
    funext fun t => List.length_map _
  rw [elementsOf, List.length_cons, List.length_flatMap, hlen, slotsNeeded, Nat.add_comm]

theorem callbacks_nodup (t : OtaTopic) : t.callbacks.Nodup := by
  cases t with
  | notifyNext name => exact (by decide :
      [IncomingPubCallback.prvMqttJobCallback, .prvMqttDefaultCallback].Nodup)
  | stream name rest => exact List.nodup_singleton _

theorem elementsOf_nodup {topics : List OtaTopic} (h : topics.Nodup) : (elementsOf topics).Nodup := by
  unfold elementsOf
  apply List.nodup_cons.2
  constructor
  · intro hmem
    obtain ⟨t, -, he⟩ := List.mem_flatMap.1 hmem
    exact default_ne_str t (filter_of_mem_elements he)
  · apply List.nodup_flatMap.2
    constructor
    · intro t _
      exact (callbacks_nodup t).map fun _ _ heq => (SubscriptionElement.mk.inj heq).2.1
    · refine h.imp fun {t t'} hne => ?_
      intro e he he'
      exact hne (OtaTopic.str_inj ((filter_of_mem_elements he).symm.trans (filter_of_mem_elements he')))

theorem Holds.strings {n : Nat} {topics : List OtaTopic} {l : GlobalSubscriptionList}
    (h : Holds n topics l) : Strings l := by
  intro e he
  obtain rfl | he := List.mem_cons.1 (h.perm.mem_iff.1 he)
  · exact by decide
  · obtain ⟨t, -, he⟩ := List.mem_flatMap.1 he
    rw [filter_of_mem_elements he]
    exact t.str_strings.1

/-! ## One completion -/

/-- The registration of a topic. -/
def addTopic (l : GlobalSubscriptionList) (topic : List UInt8) (xCallbacks : List IncomingPubCallback) :
    GlobalSubscriptionList :=
  xCallbacks.foldl (fun l xCallback => (subscriptionManagerAddSubscription l topic xCallback none).2) l

theorem register_eq (l : GlobalSubscriptionList) (t : OtaTopic) :
    prvRegisterOTACallback topicMatches l t.str = addTopic l t.str t.callbacks := by
  rw [← matches_registry, addTopic, List.foldl_map, List.foldl_filter]
  rfl

theorem addTopic_mem {l : GlobalSubscriptionList} (hl : Strings l) (t : OtaTopic)
    {xCallbacks : List IncomingPubCallback}
    (hmem : ∀ xCallback ∈ xCallbacks, ⟨t.str, xCallback, none, t.str_ne⟩ ∈ subscriptions l) :
    addTopic l t.str xCallbacks = l := by
  induction xCallbacks with
  | nil => rfl
  | cons cb cbs ih =>
    unfold addTopic
    rw [List.foldl_cons, addSubscription_mem hl t.str_ne t.str_strings.1 (hmem cb List.mem_cons_self)]
    exact ih fun x hx => hmem x (List.mem_cons_of_mem _ hx)

theorem addTopic_new {l : GlobalSubscriptionList} (hl : Strings l) (t : OtaTopic)
    {xCallbacks : List IncomingPubCallback} (hnodup : xCallbacks.Nodup)
    (hmem : ∀ xCallback ∈ xCallbacks, ⟨t.str, xCallback, none, t.str_ne⟩ ∉ subscriptions l)
    (hroom : (subscriptions l).length + xCallbacks.length ≤ l.length) :
    (addTopic l t.str xCallbacks).length = l.length ∧
      (subscriptions (addTopic l t.str xCallbacks)).Perm
        (xCallbacks.map (fun xCallback => ⟨t.str, xCallback, none, t.str_ne⟩) ++ subscriptions l) := by
  induction xCallbacks generalizing l with
  | nil => exact ⟨rfl, List.Perm.refl _⟩
  | cons cb cbs ih =>
    rw [List.length_cons] at hroom
    obtain ⟨hcb, hcbs⟩ := List.nodup_cons.1 hnodup
    obtain ⟨l', hadd, hlen, hperm⟩ := addSubscription_new hl t.str_ne t.str_strings.1
      (hmem cb List.mem_cons_self) (by omega)
    have hl' : Strings l' := by
      intro e he
      obtain rfl | he := List.mem_cons.1 (hperm.mem_iff.1 he)
      · exact t.str_strings.1
      · exact hl e he
    have hmem' : ∀ x ∈ cbs, ⟨t.str, x, none, t.str_ne⟩ ∉ subscriptions l' := by
      intro x hx he
      obtain heq | he := List.mem_cons.1 (hperm.mem_iff.1 he)
      · rw [(SubscriptionElement.mk.inj heq).2.1] at hx
        exact hcb hx
      · exact hmem x (List.mem_cons_of_mem _ hx) he
    have hroom' : (subscriptions l').length + cbs.length ≤ l'.length := by
      rw [hperm.length_eq, hlen, List.length_cons]
      omega
    obtain ⟨hlen', hperm'⟩ := ih hl' hcbs hmem' hroom'
    have hstep : addTopic l t.str (cb :: cbs) = addTopic l' t.str cbs := by
      unfold addTopic
      rw [List.foldl_cons, hadd]
    rw [hstep, List.map_cons]
    exact ⟨hlen'.trans hlen, hperm'.trans ((hperm.append_left _).trans List.perm_middle)⟩

/-- **A subscribe** that completes adds its topic. -/
theorem Holds.subscribed {n : Nat} {topics : List OtaTopic} {l : GlobalSubscriptionList}
    (h : Holds n topics l) (t : OtaTopic)
    (hfits : slotsNeeded (nextTopics topics (.subscribed .success t)) ≤ n) :
    Holds n (nextTopics topics (.subscribed .success t))
      (prvRegisterOTACallback topicMatches l t.str) := by
  have hnext : nextTopics topics (.subscribed .success t) =
    if t ∈ topics then topics else t :: topics := rfl
  rw [hnext] at hfits ⊢
  rw [register_eq]
  by_cases ht : t ∈ topics
  · rw [if_pos ht, addTopic_mem h.strings]
    · exact h
    · intro cb hcb
      apply h.perm.mem_iff.2
      apply List.mem_cons_of_mem
      exact List.mem_flatMap.2 ⟨t, ht, List.mem_map_of_mem hcb⟩
  · rw [if_neg ht] at hfits ⊢
    have hmem : ∀ cb ∈ t.callbacks, ⟨t.str, cb, none, t.str_ne⟩ ∉ subscriptions l := by
      intro cb _ he
      obtain heq | he := List.mem_cons.1 (h.perm.mem_iff.1 he)
      · exact default_ne_str t (SubscriptionElement.mk.inj heq).1.symm
      · obtain ⟨t', ht', he⟩ := List.mem_flatMap.1 he
        rw [OtaTopic.str_inj (filter_of_mem_elements he)] at ht
        exact ht ht'
    have hroom : (subscriptions l).length + t.callbacks.length ≤ l.length := by
      rw [h.perm.length_eq, elementsOf_length, h.length]
      unfold slotsNeeded at hfits ⊢
      rw [List.map_cons, List.sum_cons] at hfits
      omega
    obtain ⟨hlen, hperm⟩ := addTopic_new h.strings t (callbacks_nodup t) hmem hroom
    refine ⟨hlen.trans h.length, List.nodup_cons.2 ⟨ht, h.nodup⟩, hperm.trans ?_⟩
    exact (h.perm.append_left _).trans List.perm_middle

theorem filter_flatMap_elements (topics : List OtaTopic) (t : OtaTopic) :
    (topics.flatMap OtaTopic.elements).filter (fun e => e.pcSubscriptionFilterString ≠ t.str) =
      (topics.filter fun t' => t' ≠ t).flatMap OtaTopic.elements := by
  induction topics with
  | nil => rfl
  | cons t' topics ih =>
    rw [List.flatMap_cons, List.filter_append, ih]
    by_cases ht : t' = t
    · subst ht
      rw [List.filter_cons_of_neg (by simp), List.filter_eq_nil_iff.2, List.nil_append]
      intro e he
      simp [filter_of_mem_elements he]
    · rw [List.filter_cons_of_pos (by simpa using ht), List.flatMap_cons, List.filter_eq_self.2]
      intro e he
      simpa [filter_of_mem_elements he] using fun h => ht (OtaTopic.str_inj h)

/-- **An unsubscribe** that completes takes its topic away. -/
theorem Holds.unsubscribed {n : Nat} {topics : List OtaTopic} {l : GlobalSubscriptionList}
    (h : Holds n topics l) (t : OtaTopic) :
    Holds n (nextTopics topics (.unsubscribed .success t))
      (subscriptionManagerRemoveSubscription l t.str) := by
  refine ⟨(removeSubscription_length _ _).trans h.length, h.nodup.filter _, ?_⟩
  rw [removeSubscription_subscriptions h.strings t.str_ne t.str_strings.1]
  refine (h.perm.filter _).trans ?_
  unfold elementsOf
  have hdefault : defaultElement.pcSubscriptionFilterString ≠ t.str := default_ne_str t
  rw [List.filter_cons_of_pos (by simpa using hdefault), filter_flatMap_elements]
  exact List.Perm.refl _

theorem start_holds {n : Nat} (hn : 1 ≤ n) : Holds n []
    (prvRegisterOTACallback topicMatches (List.replicate n none) otaexampleDefaultTopicFilter) := by
  have hempty : subscriptions (List.replicate n none : GlobalSubscriptionList) = [] := by
    simp [subscriptions]
  have hstrings : Strings (List.replicate n none : GlobalSubscriptionList) := by
    intro e he
    rw [hempty] at he
    cases he
  have hreg : prvRegisterOTACallback topicMatches (List.replicate n none)
      otaexampleDefaultTopicFilter = (subscriptionManagerAddSubscription (List.replicate n none)
        otaexampleDefaultTopicFilter .prvMqttDefaultCallback none).2 := by
    -- as a topic, the filter is one of a thing that is called `+`
    have htopic : otaexampleDefaultTopicFilter = thingTopic singleLevel (ascii "jobs/#") := by decide
    have hslash : 0x2F ∉ singleLevel := by decide
    have hne : levels (ascii "jobs/#") ≠ [ascii "jobs", ascii "notify-next"] := by
      rw [levels_allJobs]
      decide
    have h₁ : topicMatches otaexampleDefaultTopicFilter otaexampleJobNotifyTopicFilter = false :=
      htopic ▸ (topicMatches_notifyNext hslash _).trans (decide_eq_false hne)
    have h₂ : topicMatches otaexampleDefaultTopicFilter otaexampleDataStreamTopicFilter = false :=
      htopic ▸ (topicMatches_streams hslash levels_allJobs).trans (decide_eq_false (by decide))
    have h₃ : topicMatches (thingTopic singleLevel (ascii "jobs/#")) otaexampleDefaultTopicFilter =
        true := (topicMatches_jobs hslash levels_allJobs).trans (decide_eq_true rfl)
    rw [← htopic] at h₃
    simp [prvRegisterOTACallback, xOtaTopicFilterCallbacks, h₁, h₂, h₃]
  have hnew : defaultElement ∉ subscriptions (List.replicate n none : GlobalSubscriptionList) := by
    rw [hempty]
    exact List.not_mem_nil
  have hroom : (subscriptions (List.replicate n none : GlobalSubscriptionList)).length <
      (List.replicate n none : GlobalSubscriptionList).length := by
    rw [hempty, List.length_replicate]
    exact hn
  obtain ⟨l', hadd, hlen, hperm⟩ :=
    addSubscription_new hstrings defaultElement.filter_ne (by decide) hnew hroom
  have hadd : subscriptionManagerAddSubscription (List.replicate n none) otaexampleDefaultTopicFilter
      .prvMqttDefaultCallback none = (true, l') := hadd
  rw [hreg, hadd]
  refine ⟨hlen.trans List.length_replicate, List.nodup_nil, ?_⟩
  rw [hempty] at hperm
  exact hperm

/-- **Every history** whose registrations fit leaves what it should in the list. -/
theorem listAfter_holds {n : Nat} {cs : List (Completion OtaTopic)}
    (hfits : ∀ pre, pre <+: cs → slotsNeeded (subscribedAfter pre) ≤ n) :
    Holds n (subscribedAfter cs) (listAfter topicMatches n (cs.map bytesOf)) := by
  induction cs using List.reverseRecOn with
  | nil =>
    rw [listAfter, List.map_nil, List.foldl_nil, subscribedAfter, List.foldl_nil]
    exact start_holds (hfits [] List.nil_prefix)
  | append_singleton cs c ih =>
    have ih := ih fun pre hpre => hfits pre (hpre.trans (List.prefix_append _ _))
    have hall := hfits _ (List.prefix_refl _)
    have hafter : subscribedAfter (cs ++ [c]) = nextTopics (subscribedAfter cs) c := by
      rw [subscribedAfter, List.foldl_append, List.foldl_cons, List.foldl_nil, subscribedAfter]
    have hlist : listAfter topicMatches n ((cs ++ [c]).map bytesOf) =
        complete topicMatches (listAfter topicMatches n (cs.map bytesOf)) (bytesOf c) := by
      rw [listAfter, List.map_append, List.foldl_append, List.map_singleton, List.foldl_cons,
        List.foldl_nil, listAfter]
    rw [hafter] at hall ⊢
    rw [hlist]
    cases c with
    | subscribed returnCode t =>
      by_cases hrc : returnCode = .success
      · subst hrc
        rw [bytesOf, complete, subscribeCompleted, if_pos rfl]
        exact ih.subscribed t hall
      · have hsame : nextTopics (subscribedAfter cs) (.subscribed returnCode t) =
            subscribedAfter cs := by
          cases returnCode <;> first | exact absurd rfl hrc | rfl
        rw [hsame, bytesOf, complete, subscribeCompleted, if_neg hrc]
        exact ih
    | unsubscribed returnCode t =>
      by_cases hrc : returnCode = .success
      · subst hrc
        rw [bytesOf, complete, unsubscribeCompleted, if_pos rfl]
        exact ih.unsubscribed t
      · have hsame : nextTopics (subscribedAfter cs) (.unsubscribed returnCode t) =
            subscribedAfter cs := by
          cases returnCode <;> first | exact absurd rfl hrc | rfl
        rw [hsame, bytesOf, complete, unsubscribeCompleted, if_neg hrc]
        exact ih

/-! ## Publishes -/

/-- What a subscription does with a publish on a topic. -/
def runElement (topic : List UInt8) (e : SubscriptionElement IncomingPubCallback) : List Handled :=
  if topicMatches topic e.pcSubscriptionFilterString then
    runCallback topicMatches topic e.pxIncomingPublishCallback
  else []

theorem incomingPublish_eq (l : GlobalSubscriptionList) (topic : List UInt8) :
    prvIncomingPublishCallback topicMatches l topic =
      (subscriptions l).flatMap (runElement topic) := by
  unfold prvIncomingPublishCallback
  rw [handleIncomingPublishes_runs, List.flatMap_map]
  induction subscriptions l with
  | nil => rfl
  | cons e es ih =>
    rw [List.filter_cons, List.flatMap_cons, ← ih]
    unfold runElement
    split_ifs
    · rw [List.flatMap_cons]
    · rfl

theorem Holds.incomingPublish {n : Nat} {topics : List OtaTopic} {l : GlobalSubscriptionList}
    (h : Holds n topics l) (topic : List UInt8) :
    (prvIncomingPublishCallback topicMatches l topic).Perm
      (runElement topic defaultElement ++
        topics.flatMap fun t => t.elements.flatMap (runElement topic)) := by
  rw [incomingPublish_eq, ← List.flatMap_assoc, ← List.flatMap_cons]
  exact h.perm.flatMap_right _

/-- Only the subscriptions of a topic itself match it. -/
theorem runElements_other {t : OtaTopic} {topic : List UInt8} (h : topic ≠ t.str) :
    t.elements.flatMap (runElement topic) = [] := by
  apply List.flatMap_eq_nil_iff.2
  intro e he
  unfold runElement
  rw [filter_of_mem_elements he, if_neg]
  intro hm
  exact h ((topicMatches_exact t.str_strings.2.1 t.str_strings.2.2 _).1 hm)

/-- What the subscriptions of a topic do with a publish on it. -/
theorem runElements_self (t : OtaTopic) :
    t.elements.flatMap (runElement t.str) =
      t.callbacks.flatMap (runCallback topicMatches t.str) := by
  have hself : topicMatches t.str t.str = true :=
    (topicMatches_exact t.str_strings.2.1 t.str_strings.2.2 _).2 rfl
  unfold OtaTopic.elements
  rw [List.flatMap_map]
  unfold runElement
  simp only [hself, if_true]

/-- A publish on a topic that is subscribed comes to its own subscriptions, and to the default one. -/
theorem flatMap_subscribed {topics : List OtaTopic} (hnodup : topics.Nodup) {t : OtaTopic}
    (ht : t ∈ topics) :
    (topics.flatMap fun t' => t'.elements.flatMap (runElement t.str)) =
      t.callbacks.flatMap (runCallback topicMatches t.str) := by
  induction topics with
  | nil => cases ht
  | cons t' topics ih =>
    obtain ⟨hnot, hnodup⟩ := List.nodup_cons.1 hnodup
    rw [List.flatMap_cons]
    obtain rfl | ht := List.mem_cons.1 ht
    · have hrest : (topics.flatMap fun t' => t'.elements.flatMap (runElement t.str)) = [] := by
        apply List.flatMap_eq_nil_iff.2
        intro t' ht'
        apply runElements_other
        intro h
        exact hnot (OtaTopic.str_inj h ▸ ht')
      rw [runElements_self, hrest, List.append_nil]
    · have hne : t.str ≠ t'.str := fun h => hnot (OtaTopic.str_inj h ▸ ht)
      rw [runElements_other hne, List.nil_append]
      exact ih hnodup ht

theorem runs_notifyNext (name : ThingName) :
    runElement (OtaTopic.notifyNext name).str defaultElement ++
      (OtaTopic.notifyNext name).callbacks.flatMap
        (runCallback topicMatches (OtaTopic.notifyNext name).str) = [.jobDocument] := by
  have hne : levels (OtaTopic.notifyNext name).rest ≠
      [ascii "jobs", ascii "$next", ascii "get", ascii "accepted"] := by
    intro h
    exact absurd (congrArg List.length (levels_notifyNext.symm.trans h)) (by decide)
  have hnot : topicMatches (OtaTopic.notifyNext name).str otaexampleJobAcceptedResponseTopicFilter =
      false := (topicMatches_accepted name.slash _).trans (decide_eq_false hne)
  simp [runElement, defaultElement, OtaTopic.callbacks, runCallback, hnot]

theorem runs_stream (name : ThingName) (rest : TopicPart) :
    runElement (OtaTopic.stream name rest).str defaultElement ++
      (OtaTopic.stream name rest).callbacks.flatMap
        (runCallback topicMatches (OtaTopic.stream name rest).str) = [.fileBlock] := by
  have hnot : topicMatches (OtaTopic.stream name rest).str otaexampleDefaultTopicFilter = false :=
    (topicMatches_jobs name.slash (levels_stream rest.bytes)).trans (decide_eq_false (by decide))
  simp [runElement, defaultElement, OtaTopic.callbacks, runCallback, hnot]

theorem runs_accepted (name : ThingName) :
    runElement (acceptedTopic name) defaultElement = [.jobDocument] := by
  have hdefault : topicMatches (acceptedTopic name) otaexampleDefaultTopicFilter = true :=
    (topicMatches_jobs name.slash levels_accepted).trans (decide_eq_true rfl)
  have haccepted : topicMatches (acceptedTopic name) otaexampleJobAcceptedResponseTopicFilter =
      true := (topicMatches_accepted name.slash _).trans (decide_eq_true levels_accepted)
  simp [runElement, defaultElement, runCallback, hdefault, haccepted]

theorem acceptedTopic_ne (name : ThingName) (t : OtaTopic) : acceptedTopic name ≠ t.str := by
  intro h
  have hlevels := congrArg levels h
  rw [acceptedTopic, levels_thingTopic name.slash, OtaTopic.levels_str, List.cons.injEq, List.cons.injEq,
    List.cons.injEq] at hlevels
  have hrest := levels_inj hlevels.2.2.2
  cases t with
  | notifyNext name' =>
    have hlen : (ascii "jobs/$next/get/accepted").length = (ascii "jobs/notify-next").length :=
      congrArg List.length hrest
    exact absurd hlen (by decide)
  | stream name' rest =>
    have hhead : some (0x6A : UInt8) = some 0x73 := congrArg List.head? hrest
    exact absurd hhead (by decide)

/-- **The routing of OTA messages**: after the registration of the default filter and any history of
completions whose registrations fit, no subscription is in the list twice, and a publish on a subscribed
topic, or with the response to a job request, is handled once, as what it is. -/
theorem ota_routing {matchTopic : List UInt8 → List UInt8 → Bool}
    (hmatch : ∀ topic filter, matchTopic topic filter = topicMatches topic filter) {n : Nat}
    {cs : List (Completion OtaTopic)}
    (hfits : ∀ pre, pre <+: cs → slotsNeeded (subscribedAfter pre) ≤ n) :
    (subscriptions (listAfter matchTopic n (cs.map bytesOf))).Nodup ∧
    (∀ name, .notifyNext name ∈ subscribedAfter cs →
      prvIncomingPublishCallback matchTopic (listAfter matchTopic n (cs.map bytesOf))
        (OtaTopic.notifyNext name).str = [.jobDocument]) ∧
    (∀ name, prvIncomingPublishCallback matchTopic (listAfter matchTopic n (cs.map bytesOf))
      (acceptedTopic name) = [.jobDocument]) ∧
    ∀ name rest, .stream name rest ∈ subscribedAfter cs →
      prvIncomingPublishCallback matchTopic (listAfter matchTopic n (cs.map bytesOf))
        (OtaTopic.stream name rest).str = [.fileBlock] := by
  obtain rfl : matchTopic = topicMatches := funext fun topic => funext (hmatch topic)
  have h := listAfter_holds hfits
  refine ⟨(h.perm.nodup_iff).2 (elementsOf_nodup h.nodup), fun name ht => ?_, fun name => ?_,
    fun name rest ht => ?_⟩
  · apply List.perm_singleton.1
    have hperm := h.incomingPublish (OtaTopic.notifyNext name).str
    rw [flatMap_subscribed h.nodup ht, runs_notifyNext] at hperm
    exact hperm
  · apply List.perm_singleton.1
    have hperm := h.incomingPublish (acceptedTopic name)
    have hother : ((subscribedAfter cs).flatMap
        fun t => t.elements.flatMap (runElement (acceptedTopic name))) = [] := by
      apply List.flatMap_eq_nil_iff.2
      intro t _
      exact runElements_other (acceptedTopic_ne name t)
    rw [hother, List.append_nil, runs_accepted] at hperm
    exact hperm
  · apply List.perm_singleton.1
    have hperm := h.incomingPublish (OtaTopic.stream name rest).str
    rw [flatMap_subscribed h.nodup ht, runs_stream] at hperm
    exact hperm

def thing : ThingName := ⟨⟨ascii "dev", by decide, by decide, by decide⟩, by decide⟩
def dataBlocks : TopicPart := ⟨ascii "s/data/cbor", by decide, by decide, by decide⟩

/-- A reconnect in the middle of an update. -/
def reconnect : List (Completion OtaTopic) :=
  [.subscribed .success (.notifyNext thing), .subscribed .success (.stream thing dataBlocks),
    .subscribed .success (.notifyNext thing), .unsubscribed .success (.stream thing dataBlocks),
    .subscribed .success (.stream thing dataBlocks)]

/-- After a reconnect messages are handled once. -/
theorem ota_routing_reconnect :
    prvIncomingPublishCallback topicMatches (listAfter topicMatches 10 (reconnect.map bytesOf))
      (OtaTopic.stream thing dataBlocks).str = [.fileBlock] := by
  have hfits : ∀ pre, pre <+: reconnect → slotsNeeded (subscribedAfter pre) ≤ 10 := by
    intro pre hpre
    have hall : ∀ pre ∈ reconnect.inits, slotsNeeded (subscribedAfter pre) ≤ 10 := by decide +kernel
    exact hall pre ((List.mem_inits _ _).2 hpre)
  exact (ota_routing (fun _ _ => rfl) hfits).2.2.2 thing dataBlocks (by decide +kernel)

end OtaDemo
