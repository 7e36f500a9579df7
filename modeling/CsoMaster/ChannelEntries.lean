import CsoMaster.ServerListing

/-! The entries of single channels over a run of the server list: a peer that has been heard of
lately, and the server's own channel. -/
namespace CsoMaster.Listing
open Runs
open State (offline UDP_SERVER_HEARTBEAT_TIMEOUT)
open SessionCluster (forgetOthers)
variable {l : Listing} {p q : Place} {e : Event}

section Effect

-- What a packet does to the entry of the channel it names.
def effect (l : Listing) : ServerPacket → Channel → Channel
  | .HELLO numPlayers | .HELLO_ANSWER numPlayers => l.hear numPlayers
  | .GOODBYE => offline
  | .HEARTBEAT => ({ · with lastHeartbeat := l.currentTime })
  | .NUMPLAYERS numPlayers => ({ · with numPlayers := numPlayers })
  | .unregistered => id

theorem setChannelEntry (given : p.serverID ≠ 0 ∧ p.channelID ≠ 0) (status : List Channel → ServerStatus → ServerStatus)
    (f : Channel → Channel) (q : Place) :
    (l.setChannel p status f).config.channel q = if q = p then (l.config.channel p).map f else l.config.channel q := by
  rw [channelEntry,channelEntry,channelEntry]
  exact entryModify p q f _ (fun _ => by rfl) given

theorem packetEntry (l : Listing) (p q : Place) (packet : ServerPacket) :
    (l.step (.packet p packet)).config.channel q =
      if q = p then (l.config.channel p).map (l.effect packet) else l.config.channel q := by
  simp only [step]
  cases found : l.config.channel p with
  | none =>
    by_cases same : q = p
    · subst same
      simp [found]
    · simp [same]
  | some channel =>
    obtain ⟨server,under,-⟩ := entrySome ((channelEntry _ _).symm.trans found)
    simp only [Option.isNone_some,Bool.false_eq_true,if_false]
    rw [← found]
    cases packet with
    | unregistered =>
      by_cases same : q = p
      · subst same
        simp [receive,effect]
      · simp [receive,same]
    | _ => exact setChannelEntry ⟨server,under⟩ _ _ q

theorem packetUsers (l : Listing) (p : Place) (packet : ServerPacket) : (l.step (.packet p packet)).users = l.users := by
  simp only [step]
  split
  · rfl
  · cases packet <;> rfl

theorem tickUsers (l : Listing) (now : Nat) : (l.step (.secondTick now)).users = l.users := by
  simp only [step,secondTick]
  split <;> rfl

theorem ownIDs {place : Place} {channel : Channel} (id : channel.id = q.channelID) :
    (q.serverID = place.serverID ∧ channel.id = place.channelID) ↔ q = place := by
  rw [id]
  constructor
  · rintro ⟨server,own⟩
    cases q
    cases place
    exact congrArg₂ Place.mk server own
  · rintro rfl
    exact ⟨rfl,rfl⟩

theorem forgetEntry {place : Place} {serverList : List Server} (numbered : Numbered serverList) (q : Place) :
    entry (forgetOthers place serverList) q = (entry serverList q).map fun channel => if q = place then channel else offline channel := by
  rw [forgetOthers,entryMap numbered q (fun serverID channel =>
    if serverID = place.serverID ∧ channel.id = place.channelID then channel
    else { channel with isOnline := false, lastHeartbeat := 0, numPlayers := 0 }) _ fun _ => rfl]
  refine Option.map_congr fun channel found => ?_
  simp only [ownIDs (numbered.entry found).1]
  rfl

theorem expireEntry {place : Place} {serverList : List Server} (numbered : Numbered serverList) (now : Nat) (q : Place) :
    entry (serverList.map (State.expire place now)) q = (entry serverList q).map fun channel =>
      if q ≠ place ∧ channel.isOnline = true ∧ channel.lastHeartbeat + UDP_SERVER_HEARTBEAT_TIMEOUT < now then offline channel
      else channel := by
  rw [entryMap numbered q (runOut place now) _ fun server => by rw [expireEq]]
  refine Option.map_congr fun channel found => ?_
  have out : expired place now q.serverID channel = true ↔
      q ≠ place ∧ channel.isOnline = true ∧ channel.lastHeartbeat + UDP_SERVER_HEARTBEAT_TIMEOUT < now := by
    have own : (q.serverID = place.serverID ∧ channel.id = place.channelID) ↔ q = place := ownIDs (numbered.entry found).1
    rw [ne_eq,← own]
    simp only [expired,Bool.and_eq_true,Bool.not_eq_true',Bool.and_eq_false_iff,decide_eq_true_eq,decide_eq_false_iff_not,
      and_assoc,not_and_or]
  simp only [runOut,out]

theorem tickEntry (numbered : Numbered l.config.serverList) (now : Nat) (q : Place) :
    (l.step (.secondTick now)).config.channel q = (l.config.channel q).map fun channel =>
      let channel := if l.Jumps now ∧ q ≠ l.config.place then offline channel else channel
      if q ≠ l.config.place ∧ channel.isOnline = true ∧ channel.lastHeartbeat + UDP_SERVER_HEARTBEAT_TIMEOUT < now then offline channel
      else channel := by
  rw [channelEntry,channelEntry]
  simp only [step,secondTick]
  by_cases jumps : l.Jumps now
  · rw [if_pos jumps]
    refine (expireEntry (forgetNumbered numbered _) now q).trans ?_
    rw [forgetEntry numbered,Option.map_map]
    refine Option.map_congr fun channel _ => ?_
    by_cases own : q = l.config.place <;> simp [own,jumps,offline,setServerList]
  · rw [if_neg jumps]
    refine (expireEntry numbered now q).trans ?_
    simp [jumps]

-- Where a change of one entry does not show, it shows nowhere.
theorem setChannelView {α : Type} (view : Channel → α) (status : List Channel → ServerStatus → ServerStatus) {f : Channel → Channel}
    (hidden : ∀ channel, view (f channel) = view channel) (q : Place) :
    ((l.setChannel p status f).config.channel q).map view = (l.config.channel q).map view := by
  rw [channelEntry,channelEntry]
  unfold entry
  split
  · rfl
  · simp only [setChannel,setServerList,List.getElem?_modify,Option.map_eq_map]
    cases l.config.serverList[(q.serverID - 1).toNat]? with
    | none => rfl
    | some server =>
      simp only [Option.map_some,Option.bind_some]
      split
      · simp only [List.getElem?_modify,Option.map_eq_map,Option.map_map]
        refine Option.map_congr fun channel _ => ?_
        simp only [Function.comp_apply]
        split
        · exact hidden channel
        · rfl
      · rfl

theorem usersView {α : Type} (view : Channel → α) (hidden : ∀ channel numPlayers, view { channel with numPlayers := numPlayers } = view channel)
    (users : e = .addUser ∨ e = .removeUser) (q : Place) :
    ((l.step e).config.channel q).map view = (l.config.channel q).map view := by
  rcases users with rfl | rfl
  · simp only [step,addUser]
    split
    · rfl
    · exact setChannelView (l := { l with users := l.users + 1 }) view _ (fun channel => hidden channel _) q
  · exact setChannelView (l := { l with users := l.users - 1 }) view _ (fun channel => hidden channel _) q

end Effect
section Heard

-- The list, and for each channel when the last sign of life was handled, as long as that counts.
structure Hearing where
  listing : Listing
  heard : Place → Option Nat

def signOfLife (currentTime : Nat) (before : Option Nat) : ServerPacket → Option Nat
  | .HELLO _ | .HELLO_ANSWER _ | .HEARTBEAT => some currentTime
  | .GOODBYE => none
  | .NUMPLAYERS _ | .unregistered => before

-- It counts until a GOODBYE, a clock jump or a second that finds it too old.
def Hearing.step (h : Hearing) (e : Event) : Hearing where
  listing := h.listing.step e
  heard q :=
    match e with
    | .packet p packet =>
      if q = p ∧ (h.listing.config.channel p).isSome then signOfLife h.listing.currentTime (h.heard q) packet else h.heard q
    | .secondTick now =>
      if h.listing.Jumps now then none else (h.heard q).filter fun time => now ≤ time + UDP_SERVER_HEARTBEAT_TIMEOUT
    | .addUser | .removeUser => h.heard q

def Hearing.start (l : Listing) : Hearing := ⟨l,fun _ => none⟩

-- A peer that has been heard of lately is shown online.
def Hearing.Live (h : Hearing) : Prop :=
  ∀ q, q ≠ h.listing.config.place → (h.heard q).isSome → h.listing.config.isOnline q = true

-- A HEARTBEAT comes from a channel that is online already.
def Hearing.BeatsOnline (h : Hearing) : Event → Prop
  | .packet p .HEARTBEAT => p ≠ h.listing.config.place → ∀ channel, h.listing.config.channel p = some channel → channel.isOnline = true
  | _ => True

structure Hearing.Sound (h : Hearing) : Prop where
  numbered : Numbered h.listing.config.serverList
  heard : ∀ q time, q ≠ h.listing.config.place → h.heard q = some time →
    ∃ channel, h.listing.config.channel q = some channel ∧ channel.isOnline = true ∧ channel.lastHeartbeat = time

variable {h : Hearing}

theorem isOnlineEntry {c : ServerConfig} : c.isOnline q = true ↔ ∃ channel, c.channel q = some channel ∧ channel.isOnline = true := by
  unfold ServerConfig.isOnline
  cases c.channel q <;> simp

theorem Hearing.Sound.live (sound : h.Sound) : h.Live := by
  intro q peer heard
  obtain ⟨time,some⟩ := Option.isSome_iff_exists.mp heard
  obtain ⟨channel,found,online,-⟩ := sound.heard q time peer some
  exact isOnlineEntry.mpr ⟨channel,found,online⟩

theorem stepHearing (h : Hearing) (e : Event) (sound : h.Sound) (beats : h.BeatsOnline e) : (h.step e).Sound where
  numbered := stepNumbered h.listing e sound.numbered
  heard q time peer heard := by
    have abroad : q ≠ h.listing.config.place := (stepPlace h.listing e).1 ▸ peer
    have unmoved (view : ((h.step e).listing.config.channel q).map (fun channel => (channel.isOnline,channel.lastHeartbeat)) =
        (h.listing.config.channel q).map fun channel => (channel.isOnline,channel.lastHeartbeat)) (before : h.heard q = some time) :
        ∃ channel, (h.step e).listing.config.channel q = some channel ∧ channel.isOnline = true ∧ channel.lastHeartbeat = time := by
      obtain ⟨channel,found,online,last⟩ := sound.heard q time abroad before
      rw [found,Option.map_some,Option.map_eq_some_iff] at view
      obtain ⟨after,there,same⟩ := view
      obtain ⟨isOnline,lastHeartbeat⟩ := Prod.mk.inj same
      exact ⟨after,there,isOnline.trans online,lastHeartbeat.trans last⟩
    cases e with
    | packet p packet =>
      have entry := packetEntry h.listing p q packet
      simp only [Hearing.step] at heard
      by_cases named : q = p ∧ (h.listing.config.channel p).isSome
      · obtain ⟨rfl,listed⟩ := named
        obtain ⟨channel,found⟩ := Option.isSome_iff_exists.mp listed
        rw [if_pos rfl,found,Option.map_some] at entry
        rw [if_pos ⟨rfl,listed⟩] at heard
        cases packet with
        | HELLO numPlayers | HELLO_ANSWER numPlayers =>
          exact ⟨_,entry,rfl,Option.some.inj heard⟩
        | GOODBYE => cases heard
        | HEARTBEAT => exact ⟨_,entry,beats abroad channel found,Option.some.inj heard⟩
        | NUMPLAYERS numPlayers => exact unmoved ((congrArg (Option.map _) entry).trans (by rw [found]; rfl)) heard
        | unregistered => exact unmoved ((congrArg (Option.map _) entry).trans (by rw [found]; rfl)) heard
      · rw [if_neg named] at heard
        refine unmoved (congrArg (Option.map _) (entry.trans ?_)) heard
        by_cases same : q = p
        · subst same
          have none : h.listing.config.channel q = none := by simpa using not_and.mp named rfl
          simp [none]
        · rw [if_neg same]
    | secondTick now =>
      have entry := tickEntry sound.numbered now q
      simp only [Hearing.step] at heard
      split at heard
      · cases heard
      · rename_i still
        obtain ⟨before,recent⟩ := Option.filter_eq_some_iff.mp heard
        refine unmoved (congrArg (Option.map _) (entry.trans ?_)) before
        obtain ⟨channel,found,online,last⟩ := sound.heard q time abroad before
        have alive : ¬ channel.lastHeartbeat + UDP_SERVER_HEARTBEAT_TIMEOUT < now := by
          have within : now ≤ time + UDP_SERVER_HEARTBEAT_TIMEOUT := by simpa using recent
          omega
        simp [found,still,alive]
    | addUser => exact unmoved (usersView _ (fun _ _ => rfl) (.inl rfl) q) heard
    | removeUser => exact unmoved (usersView _ (fun _ _ => rfl) (.inr rfl) q) heard

-- The beat of a channel that is offline is noted, and the channel stays offline.
theorem silentBeat (h : Hearing) (e : Event) (misses : ¬ h.BeatsOnline e) : ¬ (h.step e).Live := by
  cases e with
  | packet p packet =>
    cases packet with
    | HEARTBEAT =>
      simp only [Hearing.BeatsOnline,not_forall] at misses
      obtain ⟨peer,channel,found,offline⟩ := misses
      intro live
      have entry := packetEntry h.listing p p .HEARTBEAT
      rw [if_pos rfl,found,Option.map_some] at entry
      have noted : (h.step (.packet p .HEARTBEAT)).heard p = some h.listing.currentTime := if_pos ⟨rfl,by rw [found]; rfl⟩
      have abroad : p ≠ (h.step (.packet p .HEARTBEAT)).listing.config.place := by
        rwa [Hearing.step,(stepPlace _ _).1]
      obtain ⟨after,there,online⟩ := isOnlineEntry.mp (live p abroad (by rw [noted]; rfl))
      obtain rfl := Option.some.inj (entry.symm.trans there)
      exact offline online
    | _ => exact absurd trivial misses
  | _ => exact absurd trivial misses

-- The runs in which every peer heard of lately is online are those in which no HEARTBEAT comes
-- from a channel that has been given up.
theorem peersShownOnline {entries : List ServerEntry} (fits : Fits entries) (place : Place) (maxPlayers : UInt16)
    (prohibitedNames : List Bytes) (time : Nat) (events : List Event) :
    Always Hearing.step Hearing.Live (.start (load place maxPlayers prohibitedNames entries time)) events ↔
      Each Hearing.step Hearing.BeatsOnline (.start (load place maxPlayers prohibitedNames entries time)) events :=
  alwaysIffEach stepHearing (fun _ sound => sound.live) (fun h e _ misses => silentBeat h e misses)
    ⟨loadNumbered fits place,fun _ _ _ none => by cases none⟩

def regularBeats : List Event := [.packet ⟨2,1⟩ (.HELLO 7),.secondTick 3,.packet ⟨2,1⟩ .HEARTBEAT,.secondTick 6]

theorem peersShownOnlineRegular : Always Hearing.step Hearing.Live (.start loadedPair) regularBeats := by
  refine (peersShownOnline pairFits ⟨1,1⟩ 600 [] 0 _).mpr ⟨trivial,trivial,?_,trivial,trivial⟩
  intro _ channel found
  have known : ((run step loadedPair [.packet ⟨2,1⟩ (.HELLO 7),.secondTick 3]).config.channel ⟨2,1⟩).map Channel.isOnline = some true := by
    decide +kernel
  exact Option.some.inj ((congrArg (Option.map Channel.isOnline) found).symm.trans known)

-- Two beats are lost; the third comes, and the peer is offline from then on.
theorem lostBeats :
    ¬ ∀ (entries : List ServerEntry), Fits entries → ∀ (place : Place) (maxPlayers : UInt16) (prohibitedNames : List Bytes)
      (time : Nat) (events : List Event),
      Always Hearing.step Hearing.Live (.start (load place maxPlayers prohibitedNames entries time)) events := by
  intro always
  have last := alwaysLast (always pairOfServers pairFits ⟨1,1⟩ 600 [] 0
    [.packet ⟨2,1⟩ (.HELLO 7),.secondTick 3,.secondTick 6,.packet ⟨2,1⟩ .HEARTBEAT])
  exact absurd (last ⟨2,1⟩ (by decide +kernel) (by decide +kernel)) (by decide +kernel)

end Heard

section Own

-- The entry of this channel: online, and with as many players as there are users.
def OwnShown (l : Listing) : Prop :=
  ∀ channel, l.config.channel l.config.place = some channel → channel.isOnline = true ∧ channel.numPlayers.toNat = l.users

-- What a packet that names this channel leaves right.
def ServerPacket.Harmless (users : Nat) : ServerPacket → Prop
  | .HELLO numPlayers | .HELLO_ANSWER numPlayers | .NUMPLAYERS numPlayers => numPlayers.toNat = users
  | .GOODBYE => False
  | .HEARTBEAT | .unregistered => True

def SparesOwn (l : Listing) : Event → Prop
  | .packet p packet => p = l.config.place → (l.config.channel p).isSome → ServerPacket.Harmless l.users packet
  | _ => True

structure OwnSound (l : Listing) : Prop where
  numbered : Numbered l.config.serverList
  shown : l.OwnShown
  small : l.users ≤ l.config.maxPlayers
  narrow : l.config.maxPlayers ≤ 65535

theorem usersSmall (e : Event) (small : l.users ≤ l.config.maxPlayers) : (l.step e).users ≤ l.config.maxPlayers := by
  cases e with
  | packet p packet => exact (packetUsers l p packet).symm ▸ small
  | secondTick now => exact (tickUsers l now).symm ▸ small
  | addUser =>
    simp only [step,addUser]
    split
    · exact small
    · rename_i room
      exact Nat.lt_of_not_le room
  | removeUser => exact (Nat.sub_le _ _).trans small

theorem countOwn (users : Nat) (shown : l.OwnShown) (small : users ≤ 65535) :
    ({ l with users := users } : Listing).updateChannelNumPlayers.OwnShown := by
  intro channel found
  obtain ⟨server,under,-⟩ := entrySome ((channelEntry _ _).symm.trans found)
  have given : l.config.place.serverID ≠ 0 ∧ l.config.place.channelID ≠ 0 := ⟨server,under⟩
  have entry := setChannelEntry (l := { l with users := users }) given (fun _ status => status)
    ({ · with numPlayers := UInt16.ofNat users }) l.config.place
  rw [if_pos rfl] at entry
  obtain ⟨before,there,rfl⟩ := Option.map_eq_some_iff.mp (entry.symm.trans found)
  refine ⟨(shown before there).1,?_⟩
  rw [UInt16.toNat_ofNat']
  exact Nat.mod_eq_of_lt (by omega)

theorem stepOwn (l : Listing) (e : Event) (sound : l.OwnSound) (spares : l.SparesOwn e) : (l.step e).OwnSound where
  numbered := stepNumbered l e sound.numbered
  small := by
    rw [(stepPlace l e).2]
    exact usersSmall e sound.small
  narrow := by
    rw [(stepPlace l e).2]
    exact sound.narrow
  shown := by
    have bound := sound.small.trans sound.narrow
    have narrow := sound.narrow
    cases e with
    | packet p packet =>
      intro channel found
      rw [(stepPlace l _).1,packetEntry] at found
      rw [packetUsers]
      split at found
      · rename_i own
        subst own
        obtain ⟨before,there,rfl⟩ := Option.map_eq_some_iff.mp found
        obtain ⟨online,count⟩ := sound.shown before there
        have harmless := spares rfl (by rw [there]; rfl)
        cases packet with
        | HELLO numPlayers | HELLO_ANSWER numPlayers => exact ⟨rfl,harmless⟩
        | GOODBYE => exact harmless.elim
        | NUMPLAYERS numPlayers => exact ⟨online,harmless⟩
        | HEARTBEAT | unregistered => exact ⟨online,count⟩
      · exact sound.shown channel found
    | secondTick now =>
      intro channel found
      rw [(stepPlace l _).1,tickEntry sound.numbered] at found
      obtain ⟨before,there,rfl⟩ := Option.map_eq_some_iff.mp found
      simpa [tickUsers] using sound.shown before there
    | addUser =>
      simp only [step,addUser]
      split
      · exact sound.shown
      · exact countOwn _ sound.shown (by omega)
    | removeUser => exact countOwn _ sound.shown (by omega)

-- Another count than its own, or a GOODBYE.
theorem ownChanged (l : Listing) (e : Event) (misses : ¬ l.SparesOwn e) : ¬ (l.step e).OwnShown := by
  cases e with
  | packet p packet =>
    simp only [SparesOwn,not_forall] at misses
    obtain ⟨rfl,listed,harmful⟩ := misses
    obtain ⟨channel,found⟩ := Option.isSome_iff_exists.mp listed
    intro shown
    have entry := packetEntry l l.config.place l.config.place packet
    rw [if_pos rfl,found,Option.map_some] at entry
    obtain ⟨online,count⟩ := shown _ (by rw [(stepPlace l _).1]; exact entry)
    rw [packetUsers] at count
    cases packet with
    | HELLO numPlayers | HELLO_ANSWER numPlayers | NUMPLAYERS numPlayers => exact harmful count
    | GOODBYE => cases online
    | HEARTBEAT | unregistered => exact harmful trivial
  | _ => exact absurd trivial misses

-- At first nobody is there, and no other channel is known to be online.
theorem loadEntry {place : Place} {maxPlayers : UInt16} {prohibitedNames : List Bytes} {entries : List ServerEntry}
    (fits : Fits entries) {time : Nat} {channel : Channel}
    (found : (load place maxPlayers prohibitedNames entries time).config.channel q = some channel) :
    channel.isOnline = decide (q = place) ∧ channel.numPlayers = 0 := by
  rw [channelEntry] at found
  obtain ⟨id,server,mem,own,inside⟩ := (loadNumbered fits place).entry found
  obtain ⟨i,here⟩ := List.mem_iff_getElem?.mp mem
  rw [List.getElem?_mapIdx,Option.map_eq_some_iff] at here
  obtain ⟨entry,-,rfl⟩ := here
  obtain ⟨j,there⟩ := List.mem_iff_getElem?.mp inside
  simp only [ServerEntry.load,List.getElem?_mapIdx,Option.map_eq_some_iff] at there
  obtain ⟨players,-,rfl⟩ := there
  have server : UInt8.ofNat (i + 1) = q.serverID := own
  have channel : UInt8.ofNat (j + 1) = q.channelID := id
  have peer : q.serverID = place.serverID ∧ q.channelID = place.channelID → q = place := by
    cases q
    cases place
    exact fun both => congrArg₂ Place.mk both.1 both.2
  rw [ServerEntry.loadChannel,server,channel]
  refine ⟨?_,rfl⟩
  by_cases same : q = place
  · simp [same]
  · have abroad := mt peer same
    simp only [same,decide_false,Bool.not_eq_false',decide_eq_true_eq]
    tauto

theorem loadOwn (place : Place) (maxPlayers : UInt16) (prohibitedNames : List Bytes) {entries : List ServerEntry}
    (fits : Fits entries) (time : Nat) : (load place maxPlayers prohibitedNames entries time).OwnSound where
  numbered := loadNumbered fits place
  small := Nat.zero_le _
  narrow := Nat.le_of_lt_succ maxPlayers.toNat_lt
  shown channel found := by
    obtain ⟨online,players⟩ := loadEntry fits found
    exact ⟨online.trans (decide_eq_true rfl),by rw [players]; rfl⟩

-- The runs in which the own entry stays right are those in which no packet in the own name but
-- a HEARTBEAT or one with the right count is accepted.
theorem ownChannel {entries : List ServerEntry} (fits : Fits entries) (place : Place) (maxPlayers : UInt16)
    (prohibitedNames : List Bytes) (time : Nat) (events : List Event) :
    Always step OwnShown (load place maxPlayers prohibitedNames entries time) events ↔
      Each step SparesOwn (load place maxPlayers prohibitedNames entries time) events :=
  alwaysIffEach stepOwn (fun _ sound => sound.shown) (fun l e _ misses => ownChanged l e misses)
    (loadOwn place maxPlayers prohibitedNames fits time)

theorem ownChannelPair : Always step OwnShown loadedPair
    [.addUser,.packet ⟨2,1⟩ (.HELLO 7),.packet ⟨1,1⟩ (.NUMPLAYERS 1),.secondTick 9,.packet ⟨2,1⟩ .GOODBYE,.removeUser] := by
  refine (ownChannel pairFits ⟨1,1⟩ 600 [] 0 _).mpr ⟨trivial,?_,?_,trivial,?_,trivial,trivial⟩
  · exact fun same => absurd same (by decide +kernel)
  · intro _ _
    change _ = _
    decide +kernel
  · exact fun same => absurd same (by decide +kernel)

-- A GOODBYE in the own name.
theorem goodbyeToItself :
    ¬ ∀ (entries : List ServerEntry), Fits entries → ∀ (place : Place) (maxPlayers : UInt16) (prohibitedNames : List Bytes)
      (time : Nat) (events : List Event), Always step OwnShown (load place maxPlayers prohibitedNames entries time) events := by
  intro always
  have last := alwaysLast (always pairOfServers pairFits ⟨1,1⟩ 600 [] 0 [.packet ⟨1,1⟩ .GOODBYE])
  obtain ⟨channel,found,online⟩ : ∃ channel,
      (run step (load ⟨1,1⟩ 600 [] pairOfServers 0) [.packet ⟨1,1⟩ .GOODBYE]).config.channel ⟨1,1⟩ = some channel ∧
        channel.isOnline = false := ⟨_,rfl,by decide +kernel⟩
  exact absurd (last channel found).1 (by simp [online])

end Own
end CsoMaster.Listing
