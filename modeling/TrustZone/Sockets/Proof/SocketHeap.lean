import TrustZone.Sockets.SocketHeap

/-!
# Who owns the blocks of a socket

The socket holds its own block, and one each for its certificate and its name.

* `setServerCert_cases`, `setDestination_cases`, `close_moves`: what each call does to the heap.
* `setSockOpt_cases`: an option that is set while its pointer is `NULL` leaves the socket as it is, or
  fills the pointer.
* `setSockOpt_seen`: the call on the record that the socket and its strings make.
* `socket_blocks_kept`: **in a run that sets the certificate and the name once**, the length is that of
  the certificate, the name is the last one set, errors leave the socket as it is, and what was taken is
  freed once.
-/

namespace Sockets.OnHeap

open Lib Machine

variable {al : Allocator} {h h' : Heap} {b b' : SocketBlock} {v : OptionValue} {s s' : State} {op : Op}
  {rc lOptionName : Int}

/-! ## Owners -/

/-- What holds a block: the socket, its certificate and its name. -/
inductive Owner
  | socket
  | cert
  | name

/-- The block that an owner holds. -/
def owned (b : Option SocketBlock) : Owner → Option Nat
  | .socket => b.map (·.xSocket)
  | .cert => b.bind (·.server_cert)
  | .name => b.bind (·.destination)

abbrev State.own (s : State) : Owner → Option Nat := owned s.socket

theorem owned_none (k : Owner) : owned none k = none := by cases k <;> rfl

/-- The pointers of a socket say who holds what. -/
theorem owned_congr (hsock : b'.xSocket = b.xSocket) (hcert : b'.server_cert = b.server_cert)
    (hname : b'.destination = b.destination) : owned (some b') = owned (some b) := by
  funext k
  cases k <;> simp [owned, *]

/-- What the certificate and the name are does not move the others. -/
theorem owned_cert (p : Option Nat) (n : Nat) {k : Owner} (hk : k ≠ .cert) :
    owned (some { b with server_cert := p, server_cert_len := n }) k = owned (some b) k := by
  cases k with
  | cert => exact absurd rfl hk
  | socket | name => rfl

theorem owned_name (p : Option Nat) {k : Owner} (hk : k ≠ .name) :
    owned (some { b with destination := p }) k = owned (some b) k := by
  cases k with
  | name => exact absurd rfl hk
  | socket | cert => rfl

/-! ## Options -/

/-- A block that is granted and filled. -/
theorem malloc_write {n : Nat} {src : List UInt8} (hn : al.avail h.next n = true) (hlen : src.length = n) :
    ∃ h₁, h.malloc al n = (some h.next, h₁) ∧
      h₁.write h.next src = some ⟨h.next + 1, Function.update h.mem h.next (some src)⟩ := by
  have hblk : (slice (al.junk h.next) 0 n).length = n := slice_length ..
  refine ⟨_, if_pos hn, ?_⟩
  rw [Heap.write_eq (Function.update_self ..) (by rw [hblk, hlen]), Function.update_idem]
  rw [blit_zero, List.drop_eq_nil_of_le (by rw [hblk, hlen]), List.append_nil]

theorem setServerCert_cases (al : Allocator) (h : Heap) (b : SocketBlock) (v : OptionValue) :
    setServerCert al h b v =
      some (⟨h.next + 1, h.mem⟩, { b with server_cert := none }, SOCKETS_ENOMEM) ∨
    setServerCert al h b v = some (⟨h.next + 1, Function.update h.mem h.next (some v.val)⟩,
      { b with server_cert := some h.next, server_cert_len := v.val.length }, SOCKETS_ERROR_NONE) := by
  unfold setServerCert
  cases hav : al.avail h.next v.val.length with
  | false =>
    rw [Heap.malloc_refused h hav]
    exact .inl rfl
  | true =>
    obtain ⟨h₁, hmalloc, hwrite⟩ := malloc_write hav rfl
    rw [hmalloc]
    dsimp only
    rw [hwrite]
    exact .inr rfl

theorem setDestination_cases
    (hfit : al.avail h.next ((v.val.length + 1) % 2 ^ 32) = true → v.val.length + 1 < 2 ^ 32) :
    setDestination al h b v =
      some (⟨h.next + 1, h.mem⟩, { b with destination := none }, SOCKETS_ENOMEM) ∨
    setDestination al h b v = some (⟨h.next + 1, Function.update h.mem h.next (some (v.val ++ [0]))⟩,
      { b with destination := some h.next }, SOCKETS_ERROR_NONE) := by
  unfold setDestination
  cases hav : al.avail h.next ((v.val.length + 1) % 2 ^ 32) with
  | false =>
    rw [Heap.malloc_refused h hav]
    exact .inl rfl
  | true =>
    have hlen : (v.val ++ [0]).length = (v.val.length + 1) % 2 ^ 32 := by
      rw [Nat.mod_eq_of_lt (hfit hav), List.length_append, List.length_singleton]
    obtain ⟨h₁, hmalloc, hwrite⟩ := malloc_write hav hlen
    rw [hmalloc]
    dsimp only
    rw [hwrite]
    exact .inr rfl

/-- The certificate and the name are set while their pointers are `NULL`, and the length of the name has
room for the terminator, unless the memory is refused. -/
def Fresh (al : Allocator) (h : Heap) (b : SocketBlock) (lOptionName : Int) (v : OptionValue) : Prop :=
  (lOptionName = SOCKETS_SO_TRUSTED_SERVER_CERTIFICATE → b.server_cert = none) ∧
  (lOptionName = SOCKETS_SO_SERVER_NAME_INDICATION → b.destination = none ∧
    (al.avail h.next ((v.val.length + 1) % 2 ^ 32) = true → v.val.length + 1 < 2 ^ 32))

/-- An option that leaves the blocks as they are, and the socket too when it fails. -/
structure Still (h : Heap) (b : SocketBlock) (lOptionName : Int) (h' : Heap) (b' : SocketBlock) (rc : Int) :
    Prop where
  mem : h'.mem = h.mem
  next : h.next ≤ h'.next
  xSocket : b'.xSocket = b.xSocket
  server_cert : b'.server_cert = b.server_cert
  server_cert_len : b'.server_cert_len = b.server_cert_len
  destination : b'.destination = b.destination
  error : rc ≠ SOCKETS_ERROR_NONE → b' = b
  name : lOptionName = SOCKETS_SO_SERVER_NAME_INDICATION → rc ≠ SOCKETS_ERROR_NONE

/-- An option that fills a pointer. -/
def FillsCert (h : Heap) (b : SocketBlock) (v : OptionValue) (h' : Heap) (b' : SocketBlock) : Prop :=
  b.server_cert = none ∧ h' = ⟨h.next + 1, Function.update h.mem h.next (some v.val)⟩ ∧
    b' = { b with server_cert := some h.next, server_cert_len := v.val.length }

def FillsName (h : Heap) (b : SocketBlock) (v : OptionValue) (h' : Heap) (b' : SocketBlock) : Prop :=
  b.destination = none ∧ h' = ⟨h.next + 1, Function.update h.mem h.next (some (v.val ++ [0]))⟩ ∧
    b' = { b with destination := some h.next }

theorem Still.same (hname : lOptionName ≠ SOCKETS_SO_SERVER_NAME_INDICATION ∨ rc ≠ SOCKETS_ERROR_NONE) :
    Still h b lOptionName h b rc where
  mem := rfl
  next := Nat.le_refl _
  xSocket := rfl
  server_cert := rfl
  server_cert_len := rfl
  destination := rfl
  error _ := rfl
  name hn := hname.resolve_left (not_not.2 hn)

/-- A request that is refused, for a pointer that is `NULL`. -/
theorem Still.refused (hb : b' = b) : Still h b lOptionName ⟨h.next + 1, h.mem⟩ b' SOCKETS_ENOMEM := by
  subst hb
  exact ⟨rfl, Nat.le_succ _, rfl, rfl, rfl, rfl, fun _ => rfl, fun _ => by decide⟩

/-- What an option does, set while its pointer is `NULL`. -/
theorem setSockOpt_cases (hfresh : Fresh al h b lOptionName v) (a : Int) :
    ∃ h' b' rc, SOCKETS_SetSockOpt al h b lOptionName v a = some (h', b', rc) ∧
      (Still h b lOptionName h' b' rc ∨
        rc = SOCKETS_ERROR_NONE ∧ lOptionName ≠ SOCKETS_SO_SERVER_NAME_INDICATION ∧
          FillsCert h b v h' b' ∨
        rc = SOCKETS_ERROR_NONE ∧ lOptionName = SOCKETS_SO_SERVER_NAME_INDICATION ∧
          FillsName h b v h' b') := by
  unfold SOCKETS_SetSockOpt
  have herr : SOCKETS_SOCKET_ERROR ≠ SOCKETS_ERROR_NONE := by decide
  split_ifs with hrcv hsnd hnon htls hopen hcert hopen hname hopen
  · exact ⟨h, b, _, rfl, .inl (.same (.inl (by rw [hrcv]; decide)))⟩
  · exact ⟨h, b, _, rfl, .inl (.same (.inl (by rw [hsnd]; decide)))⟩
  · exact ⟨h, b, _, rfl, .inl (.same (.inl (by rw [hnon]; decide)))⟩
  · refine ⟨h, _, _, rfl, .inl ?_⟩
    have hne : lOptionName ≠ SOCKETS_SO_SERVER_NAME_INDICATION := by rw [htls]; decide
    exact ⟨rfl, Nat.le_refl _, rfl, rfl, rfl, rfl, fun hrc => absurd rfl hrc, fun hn => absurd hn hne⟩
  · exact ⟨h, b, _, rfl, .inl (.same (.inr herr))⟩
  · have hnull := hfresh.1 hcert
    have hne : lOptionName ≠ SOCKETS_SO_SERVER_NAME_INDICATION := by rw [hcert]; decide
    rcases setServerCert_cases al h b v with hset | hset
    · refine ⟨_, _, _, hset, .inl (.refused ?_)⟩
      rw [← hnull]
    · exact ⟨_, _, _, hset, .inr (.inl ⟨rfl, hne, hnull, rfl, rfl⟩)⟩
  · exact ⟨h, b, _, rfl, .inl (.same (.inr herr))⟩
  · obtain ⟨hnull, hfit⟩ := hfresh.2 hname
    rcases setDestination_cases (b := b) hfit with hset | hset
    · refine ⟨_, _, _, hset, .inl (.refused ?_)⟩
      rw [← hnull]
    · exact ⟨_, _, _, hset, .inr (.inr ⟨rfl, hname, hnull, rfl, rfl⟩)⟩
  · exact ⟨h, b, _, rfl, .inl (.same (.inr herr))⟩
  · exact ⟨h, b, _, rfl, .inl (.same (.inr herr))⟩

/-! ## The invariant -/

/-- The length is that of the certificate. -/
def CertOk (h : Heap) (b : SocketBlock) : Prop :=
  match b.server_cert with
  | none => b.server_cert_len = 0
  | some p => ∃ blk, h.mem p = some blk ∧ blk.length = b.server_cert_len

/-- The name is `NULL`, or `last` with a terminator behind it. -/
def NameOk (last : Option (List UInt8)) (h : Heap) (b : SocketBlock) : Prop :=
  b.destination = none ∨ ∃ p name, b.destination = some p ∧ last = some name ∧
    h.mem p = some (name ++ [0])

/-- The name that a call sets. -/
def acceptedName (e : Entry State Op Int) : Option (List UInt8) :=
  match e.inp with
  | .setSockOpt lOptionName v _ =>
    if lOptionName = SOCKETS_SO_SERVER_NAME_INDICATION ∧ e.out = SOCKETS_ERROR_NONE then some v.val
    else none
  | .close _ => none

/-- The last name that was set. -/
def lastName (tr : List (Entry State Op Int)) : Option (List UInt8) := tr.reverse.findSome? acceptedName

/-- A call that sets no name. -/
theorem lastName_kept {tr : List (Entry State Op Int)} {a : Int}
    (hno : lOptionName = SOCKETS_SO_SERVER_NAME_INDICATION → rc ≠ SOCKETS_ERROR_NONE) :
    lastName (tr ++ [⟨s, .setSockOpt lOptionName v a, rc, s'⟩]) = lastName tr := by
  unfold lastName
  rw [List.reverse_append, List.reverse_singleton, List.singleton_append, List.findSome?_cons]
  unfold acceptedName
  dsimp only
  rw [if_neg fun hacc => hno hacc.1 hacc.2]

theorem lastName_set {tr : List (Entry State Op Int)} {a : Int}
    (hsni : lOptionName = SOCKETS_SO_SERVER_NAME_INDICATION) :
    lastName (tr ++ [⟨s, .setSockOpt lOptionName v a, SOCKETS_ERROR_NONE, s'⟩]) = some v.val := by
  unfold lastName
  rw [List.reverse_append, List.reverse_singleton, List.singleton_append, List.findSome?_cons]
  unfold acceptedName
  dsimp only
  rw [if_pos ⟨hsni, rfl⟩]

/-- **The invariant** of a socket, after the calls `tr`. -/
structure Inv (tr : List (Entry State Op Int)) (s : State) : Prop where
  wf : s.heap.Wf
  held : s.heap.HeldBy s.own
  cert : ∀ b, s.socket = some b → CertOk s.heap b
  name : ∀ b, s.socket = some b → NameOk (lastName tr) s.heap b

/-- The socket is open, and a certificate or name is set for the first time. -/
def FirstSet (al : Allocator) (s : State) (op : Op) : Prop :=
  ∃ b, s.socket = some b ∧
    match op with
    | .setSockOpt lOptionName v _ => Fresh al s.heap b lOptionName v
    | .close _ => True

/-- An option that fails leaves the socket and its blocks as they are. -/
def KeptOnError (e : Entry State Op Int) : Prop :=
  match e.inp with
  | .setSockOpt .. => e.out ≠ SOCKETS_ERROR_NONE →
      e.post.socket = e.pre.socket ∧ e.post.heap.mem = e.pre.heap.mem
  | .close _ => True

/-- A call that loses nothing, and fails only without effect. -/
structure Clean (e : Entry State Op Int) : Prop where
  moves : e.pre.heap.Moves (fun _ => True) False e.pre.own e.post.heap e.post.own
  kept : KeptOnError e

/-- The bytes that a pointer of the socket points to stay, where the heap changes at a new name. -/
theorem mem_fresh (hw : h.Wf) {p : Nat} {blk src : List UInt8} (hp : h.mem p = some blk) :
    Function.update h.mem h.next (some src) p = some blk := by
  have hne : p ≠ h.next := Nat.ne_of_lt (hw.lt hp)
  rw [Function.update_of_ne hne, hp]

theorem CertOk.fresh (hw : h.Wf) {src : List UInt8} (hok : CertOk h b)
    (hcert : b'.server_cert = b.server_cert) (hlen : b'.server_cert_len = b.server_cert_len) :
    CertOk ⟨h.next + 1, Function.update h.mem h.next (some src)⟩ b' := by
  unfold CertOk at hok ⊢
  rw [hcert, hlen]
  rcases hc : b.server_cert with - | p
  · rwa [hc] at hok
  · rw [hc] at hok
    obtain ⟨blk, hp, hblk⟩ := hok
    exact ⟨blk, mem_fresh hw hp, hblk⟩

theorem NameOk.fresh {last : Option (List UInt8)} (hw : h.Wf) {src : List UInt8} (hok : NameOk last h b)
    (hname : b'.destination = b.destination) :
    NameOk last ⟨h.next + 1, Function.update h.mem h.next (some src)⟩ b' := by
  unfold NameOk at hok ⊢
  rw [hname]
  rcases hok with hnull | ⟨p, name, hp, hlast, hmem⟩
  · exact .inl hnull
  · exact .inr ⟨p, name, hp, hlast, mem_fresh hw hmem⟩

/-- A block that is taken by an owner that holds nothing. -/
theorem taken_moves {o o' : Owner → Option Nat} {k : Owner} (src : List UInt8) (hw : h.Wf)
    (hheld : h.HeldBy o) (hnone : o k = none) (hnew : o' k = some h.next) (hoth : ∀ j, j ≠ k → o' j = o j) :
    h.Moves (fun _ => True) False o ⟨h.next + 1, Function.update h.mem h.next (some src)⟩ o' := by
  refine .exchange hw hheld trivial ?_ hoth
  rw [hnew]
  refine (Heap.Exchange.malloc hw (hheld.live k) src).congr fun p hp => ?_
  rw [hnone] at hp
  cases hp

/-! ## One call -/

section Step

variable {tr : List (Entry State Op Int)}

/-- What an option keeps that leaves the blocks as they are. -/
theorem Inv.still (hinv : Inv tr ⟨h, some b⟩) {a : Int} (hstill : Still h b lOptionName h' b' rc) :
    Inv (tr ++ [⟨⟨h, some b⟩, .setSockOpt lOptionName v a, rc, ⟨h', some b'⟩⟩]) ⟨h', some b'⟩ ∧
      Clean ⟨⟨h, some b⟩, .setSockOpt lOptionName v a, rc, ⟨h', some b'⟩⟩ := by
  have hown : owned (some b') = owned (some b) :=
    owned_congr hstill.xSocket hstill.server_cert hstill.destination
  have hw' : Heap.Wf ⟨h'.next, h'.mem⟩ := by
    rw [hstill.mem]
    exact hinv.wf.mono hstill.next
  have hmoves : h.Moves (fun _ => True) False (owned (some b)) h' (owned (some b')) := by
    rw [hown]
    exact .same hinv.held hw' hstill.next hstill.mem
  refine ⟨⟨hw', hmoves.held, ?_, ?_⟩, hmoves, ?_⟩
  · rintro _ ⟨⟩
    have hcert := hinv.cert b rfl
    unfold CertOk at hcert ⊢
    rw [hstill.server_cert, hstill.server_cert_len, hstill.mem]
    exact hcert
  · rintro _ ⟨⟩
    have hname := hinv.name b rfl
    rw [lastName_kept hstill.name]
    unfold NameOk at hname ⊢
    rw [hstill.destination, hstill.mem]
    exact hname
  · intro hrc
    exact ⟨congrArg some (hstill.error hrc), hstill.mem⟩

theorem Inv.fillsCert (hinv : Inv tr ⟨h, some b⟩) {a : Int} (hfills : FillsCert h b v h' b')
    (hne : lOptionName ≠ SOCKETS_SO_SERVER_NAME_INDICATION) :
    Inv (tr ++ [⟨⟨h, some b⟩, .setSockOpt lOptionName v a, SOCKETS_ERROR_NONE, ⟨h', some b'⟩⟩])
        ⟨h', some b'⟩ ∧
      Clean ⟨⟨h, some b⟩, .setSockOpt lOptionName v a, SOCKETS_ERROR_NONE, ⟨h', some b'⟩⟩ := by
  obtain ⟨hnull, rfl, rfl⟩ := hfills
  have hmoves := taken_moves v.val hinv.wf hinv.held (k := .cert) hnull rfl fun j hj =>
    owned_cert (some h.next) v.val.length hj
  refine ⟨⟨hmoves.later.wf, hmoves.held, ?_, ?_⟩, hmoves, fun hrc => absurd rfl hrc⟩
  · rintro _ ⟨⟩
    exact ⟨v.val, Function.update_self .., rfl⟩
  · rintro _ ⟨⟩
    rw [lastName_kept fun hsni => absurd hsni hne]
    exact (hinv.name b rfl).fresh hinv.wf rfl

theorem Inv.fillsName (hinv : Inv tr ⟨h, some b⟩) {a : Int} (hfills : FillsName h b v h' b')
    (hsni : lOptionName = SOCKETS_SO_SERVER_NAME_INDICATION) :
    Inv (tr ++ [⟨⟨h, some b⟩, .setSockOpt lOptionName v a, SOCKETS_ERROR_NONE, ⟨h', some b'⟩⟩])
        ⟨h', some b'⟩ ∧
      Clean ⟨⟨h, some b⟩, .setSockOpt lOptionName v a, SOCKETS_ERROR_NONE, ⟨h', some b'⟩⟩ := by
  obtain ⟨hnull, rfl, rfl⟩ := hfills
  have hmoves := taken_moves (v.val ++ [0]) hinv.wf hinv.held (k := .name) hnull rfl
    fun j hj => owned_name (some h.next) hj
  refine ⟨⟨hmoves.later.wf, hmoves.held, ?_, ?_⟩, hmoves, fun hrc => absurd rfl hrc⟩
  · rintro _ ⟨⟩
    exact (hinv.cert b rfl).fresh hinv.wf rfl rfl
  · rintro _ ⟨⟩
    rw [lastName_set hsni]
    exact .inr ⟨h.next, v.val, rfl, rfl, Function.update_self ..⟩

/-- **An option**, set while its pointer is `NULL`. -/
theorem Inv.setSockOpt (hinv : Inv tr ⟨h, some b⟩) (hfresh : Fresh al h b lOptionName v) (a : Int) :
    ∃ h' b' rc, SOCKETS_SetSockOpt al h b lOptionName v a = some (h', b', rc) ∧
      Inv (tr ++ [⟨⟨h, some b⟩, .setSockOpt lOptionName v a, rc, ⟨h', some b'⟩⟩]) ⟨h', some b'⟩ ∧
      Clean ⟨⟨h, some b⟩, .setSockOpt lOptionName v a, rc, ⟨h', some b'⟩⟩ := by
  obtain ⟨h', b', rc, hstep, hcases⟩ := setSockOpt_cases hfresh a
  refine ⟨h', b', rc, hstep, ?_⟩
  rcases hcases with hstill | ⟨rfl, hne, hfills⟩ | ⟨rfl, hsni, hfills⟩
  · exact hinv.still hstill
  · exact hinv.fillsCert hfills hne
  · exact hinv.fillsName hfills hsni

/-- A block that is given back by its owner, if it holds one. -/
theorem freed_moves {o o' : Owner → Option Nat} {k : Owner} (hw : h.Wf) (hheld : h.HeldBy o)
    (hnone : o' k = none) (hoth : ∀ j, j ≠ k → o' j = o j) :
    ∃ h', freeUnlessNull h (o k) = some h' ∧ h.Moves (fun _ => True) False o h' o' := by
  cases hk : o k with
  | none =>
    have hsame : o' = o := by
      funext j
      by_cases hj : j = k
      · rw [hj, hnone, hk]
      · exact hoth j hj
    rw [hsame]
    exact ⟨h, rfl, .same hheld hw (Nat.le_refl _) rfl⟩
  | some p =>
    obtain ⟨blk, hp⟩ := Option.ne_none_iff_exists'.1 (hheld.live k p hk)
    refine ⟨_, Heap.free_eq hp, .exchange hw hheld trivial ?_ hoth⟩
    rw [hk, hnone]
    exact .free hw (hheld.live k p hk)

/-- **Closing** gives back what the socket holds. -/
theorem close_moves (hw : h.Wf) (hheld : h.HeldBy (owned (some b))) (a : Int) :
    ∃ h', SOCKETS_Close h b a = some (h', closeError a) ∧
      h.Moves (fun _ => True) False (owned (some b)) h' (owned none) := by
  obtain ⟨h₁, hcert, hm₁⟩ := freed_moves (k := .cert) hw hheld rfl fun j hj => owned_cert none 0 hj
  obtain ⟨h₂, hname, hm₂⟩ := freed_moves (k := .name) hm₁.later.wf hm₁.held rfl
    fun j hj => owned_name none hj
  obtain ⟨h₃, hsock, hm₃⟩ := freed_moves (k := .socket) hm₂.later.wf hm₂.held (owned_none .socket)
    fun j hj => by
      cases j with
      | socket => exact absurd rfl hj
      | cert | name => rfl
  have hcert' : freeUnlessNull h b.server_cert = some h₁ := hcert
  have hname' : freeUnlessNull h₁ b.destination = some h₂ := hname
  have hsock' : h₂.free b.xSocket = some h₃ := hsock
  refine ⟨h₃, ?_, ((hm₁.trans hm₂).trans hm₃).imp (by simp)⟩
  simp [SOCKETS_Close, hcert', hname', hsock']

/-- **A call** on a socket that is open, with options set for the first time. -/
theorem Inv.step (hinv : Inv tr s) (hfirst : FirstSet al s op) :
    ∃ s' rc, OnHeap.step al s op = some (s', rc) ∧ Inv (tr ++ [⟨s, op, rc, s'⟩]) s' ∧
      Clean ⟨s, op, rc, s'⟩ := by
  obtain ⟨b, hopen, hfirst⟩ := hfirst
  obtain ⟨h, sock⟩ := s
  obtain rfl : sock = some b := hopen
  cases op with
  | setSockOpt lOptionName v a =>
    obtain ⟨h', b', rc, hset, hinv', hclean⟩ := hinv.setSockOpt hfirst a
    exact ⟨_, rc, by simp [OnHeap.step, hset], hinv', hclean⟩
  | close a =>
    obtain ⟨h', hclose, hmoves⟩ := close_moves hinv.wf hinv.held a
    refine ⟨⟨h', none⟩, closeError a, by simp [OnHeap.step, hclose], ?_, hmoves, trivial⟩
    exact ⟨hmoves.later.wf, hmoves.held, nofun, nofun⟩

end Step

/-! ## Runs -/

variable {s₀ : State} {tr tr₀ : List (Entry State Op Int)} {ops : List Op}

/-- The run, by induction on the calls. -/
theorem Inv.run (hinv : Inv tr₀ s) (hmeets : (calls al).Meets (FirstSet al) s ops) :
    ∃ tr s', (calls al).exec? s ops = some (tr, s') ∧ (∀ e ∈ tr, Clean e) ∧
      ∀ tr₁ tr₂, tr = tr₁ ++ tr₂ → ∃ s₁, Exec (calls al) s tr₁ s₁ ∧ Inv (tr₀ ++ tr₁) s₁ := by
  induction ops generalizing s tr₀ with
  | nil =>
    refine ⟨[], s, rfl, fun e he => absurd he List.not_mem_nil, ?_⟩
    intro tr₁ tr₂ htr
    obtain ⟨rfl, -⟩ := List.append_eq_nil_iff.1 htr.symm
    exact ⟨s, .nil, by rwa [List.append_nil]⟩
  | cons op ops ih =>
    obtain ⟨hfirst, hrest⟩ := hmeets
    obtain ⟨s₁, rc, hstep, hinv₁, hclean⟩ := hinv.step hfirst
    obtain ⟨tr, s', hrun, hcleans, hparts⟩ := ih hinv₁ (hrest s₁ rc hstep)
    have hstep' : (calls al).step s op = some (s₁, rc) := hstep
    refine ⟨⟨s, op, rc, s₁⟩ :: tr, s', by simp only [exec?, hstep', hrun], ?_, ?_⟩
    · exact List.forall_mem_cons.2 ⟨hclean, hcleans⟩
    · intro tr₁ tr₂ htr
      rcases tr₁ with - | ⟨e, tr₁⟩
      · exact ⟨s, .nil, by rwa [List.append_nil]⟩
      · rw [List.cons_append] at htr
        obtain ⟨rfl, hrest⟩ := List.cons.inj htr
        obtain ⟨s₂, hrun₂, hinv₂⟩ := hparts tr₁ tr₂ hrest
        refine ⟨s₂, ?_, by rwa [List.append_assoc] at hinv₂⟩
        have hfirst : Exec (calls al) s [⟨s, op, rc, s₁⟩] s₁ := Exec.snoc .nil hstep'
        exact hfirst.append hrun₂

/-- A block that a call of the run takes. -/
def Allocated (tr : List (Entry State Op Int)) (p : Nat) : Prop :=
  ∃ e ∈ tr, e.pre.heap.next ≤ p ∧ e.post.heap.mem p ≠ none

/-- **What was taken is freed once** when the socket is closed. -/
theorem freed_once (hw : s₀.heap.Wf) (hrun : Exec (calls al) s₀ tr s) (hclean : ∀ e ∈ tr, Clean e)
    (hclosed : s.socket = none) {p : Nat} (hp : Allocated tr p) : timesFreed State.heap p tr = 1 := by
  have hlater : ∀ e ∈ tr, e.pre.heap.Later e.post.heap := fun e he => (hclean e he).moves.later
  obtain ⟨e, he, hge, hlive⟩ := hp
  have htaken : TakenIn State.heap (fun _ => True) tr p :=
    ⟨e, he, trivial, hge, (hlater e he).wf.live_lt hlive⟩
  obtain ⟨hlow, hhigh⟩ := htaken.bounds hrun hlater
  have hdead : s.heap.mem p = none := by
    by_contra hne
    have hmoves : ∀ e ∈ tr, True → e.pre.heap.Moves (fun _ => True) False e.pre.own e.post.heap e.post.own :=
      fun e he _ => (hclean e he).moves
    obtain ⟨k, -, hk⟩ := held_of_taken hrun hw hmoves (fun e he hno => absurd trivial hno) htaken hne
    rw [State.own, hclosed, owned_none] at hk
    cases hk
  rw [(timesFreed_since hrun hlater hw).2 p hlow, if_pos ⟨hhigh, hdead⟩]

/-- What holds after the calls `tr`. -/
structure SocketLaw (tr : List (Entry State Op Int)) (s : State) : Prop where
  cert : ∀ b, s.socket = some b → CertOk s.heap b
  name : ∀ b, s.socket = some b → NameOk (lastName tr) s.heap b
  error : ∀ e ∈ tr, KeptOnError e
  freed : s.socket = none → ∀ p, Allocated tr p → timesFreed State.heap p tr = 1

variable {h₀ : Heap} {lDomain lType lProtocol iotSocketCreate : Int}

/-- A socket that was created. -/
theorem created_inv (hw : h₀.Wf)
    (hcreate : SOCKETS_Socket al h₀ lDomain lType lProtocol iotSocketCreate = some (h, some b)) :
    Inv [] ⟨h, some b⟩ := by
  unfold SOCKETS_Socket at hcreate
  by_cases hargs : lDomain ≠ SOCKETS_AF_INET ∨ lType ≠ SOCKETS_SOCK_STREAM ∨ lProtocol ≠ SOCKETS_IPPROTO_TCP
  · rw [if_pos hargs] at hcreate
    cases hcreate
  rw [if_neg hargs] at hcreate
  cases hav : al.avail h₀.next sizeofXSocket with
  | false =>
    rw [Heap.malloc_refused h₀ hav] at hcreate
    cases hcreate
  | true =>
    have hmalloc : h₀.malloc al sizeofXSocket = (some h₀.next, ⟨h₀.next + 1,
        Function.update h₀.mem h₀.next (some (slice (al.junk h₀.next) 0 sizeofXSocket))⟩) := if_pos hav
    rw [hmalloc] at hcreate
    dsimp only at hcreate
    split_ifs at hcreate with hfail
    · rw [Option.map_eq_some_iff] at hcreate
      obtain ⟨h₁, -, heq⟩ := hcreate
      cases heq
    · obtain ⟨rfl, hb⟩ := Prod.mk.inj (Option.some.inj hcreate)
      obtain rfl := Option.some.inj hb
      refine ⟨hw.push _, ⟨?_, ?_⟩, ?_, ?_⟩
      · intro k p hk
        cases k with
        | socket =>
          obtain rfl := Option.some.inj hk
          simp
        | cert | name => cases hk
      · intro j k p hj hk
        cases j with
        | cert | name => cases hj
        | socket =>
          cases k with
          | socket => rfl
          | cert | name => cases hk
      · rintro _ ⟨⟩
        rfl
      · rintro _ ⟨⟩
        exact .inl rfl

/-! ## The call on the record -/

/-- The socket with the strings that it points to. -/
def seen (h : Heap) (b : SocketBlock) : Socket where
  id := b.id
  flags := b.flags
  TLS_context := none
  destination := b.destination.bind h.mem
  server_cert := b.server_cert.bind h.mem
  server_cert_len := b.server_cert_len

/-- What a pointer shows stays, where the heap changes at a new name. -/
theorem bind_fresh {o : Option Nat} (src : List UInt8) (hw : h.Wf)
    (hlive : ∀ p, o = some p → h.mem p ≠ none) :
    o.bind (Function.update h.mem h.next (some src)) = o.bind h.mem := by
  rcases o with - | p
  · rfl
  · have hne : p ≠ h.next := Nat.ne_of_lt (hw.live_lt (hlive p rfl))
    exact Function.update_of_ne hne _ _

theorem setDestination_fits {r : Heap × SocketBlock × Int} (hset : setDestination al h b v = some r)
    (hav : al.avail h.next ((v.val.length + 1) % 2 ^ 32) = true) : v.val.length + 1 < 2 ^ 32 := by
  by_contra hlong
  have hzero : (v.val.length + 1) % 2 ^ 32 = 0 := by
    have := v.property
    omega
  unfold setDestination at hset
  rw [hzero] at hset hav
  have hmalloc : h.malloc al 0 = (some h.next,
      ⟨h.next + 1, Function.update h.mem h.next (some (slice (al.junk h.next) 0 0))⟩) := if_pos hav
  rw [hmalloc] at hset
  simp [Heap.write] at hset

theorem setServerCert_seen (hw : h.Wf) (hheld : h.HeldBy (owned (some b)))
    (hset : setServerCert al h b v = some (h', b', rc)) : ∃ pvPortMalloc : Bool,
      (if pvPortMalloc then ({ seen h b with server_cert := some v.val, server_cert_len := v.val.length },
        SOCKETS_ERROR_NONE) else ({ seen h b with server_cert := none }, SOCKETS_ENOMEM)) =
      (seen h' b', rc) := by
  rcases setServerCert_cases al h b v with heq | heq
  · rw [heq] at hset
    cases hset
    exact ⟨false, rfl⟩
  · rw [heq] at hset
    cases hset
    refine ⟨true, ?_⟩
    have hname := bind_fresh v.val hw (hheld.live .name)
    simp only [owned, Option.bind_some] at hname
    simp [seen, hname]

theorem setDestination_seen (hw : h.Wf) (hheld : h.HeldBy (owned (some b)))
    (hset : setDestination al h b v = some (h', b', rc)) : ∃ pvPortMalloc : Bool,
      (if pvPortMalloc then ({ seen h b with destination := some (v.val ++ [0]) }, SOCKETS_ERROR_NONE)
        else ({ seen h b with destination := none }, SOCKETS_ENOMEM)) = (seen h' b', rc) := by
  rcases setDestination_cases (b := b) (setDestination_fits hset) with heq | heq
  · rw [heq] at hset
    cases hset
    exact ⟨false, rfl⟩
  · rw [heq] at hset
    cases hset
    refine ⟨true, ?_⟩
    have hcert := bind_fresh (v.val ++ [0]) hw (hheld.live .cert)
    simp only [owned, Option.bind_some] at hcert
    simp [seen, hcert]

/-- **The two models agree**: a call that returns is the one on the record that is seen. -/
theorem setSockOpt_seen (hw : h.Wf) (hheld : h.HeldBy (owned (some b))) {a : Int}
    (hset : SOCKETS_SetSockOpt al h b lOptionName v a = some (h', b', rc)) :
    ∃ pvPortMalloc, Sockets.SOCKETS_SetSockOpt (seen h b) lOptionName v.val ⟨a, pvPortMalloc⟩ =
      (seen h' b', rc) := by
  have hconn : (seen h b).flags.connected = b.flags.connected := rfl
  unfold SOCKETS_SetSockOpt at hset
  unfold Sockets.SOCKETS_SetSockOpt
  rw [hconn]
  split_ifs at hset with hrcv hsnd hnon htls hopen hcert hopen hname hopen
  · cases hset
    exact ⟨true, if_pos hrcv⟩
  · cases hset
    refine ⟨true, ?_⟩
    rw [if_neg hrcv, if_pos hsnd]
  · cases hset
    refine ⟨true, ?_⟩
    rw [if_neg hrcv, if_neg hsnd, if_pos hnon]
  · cases hset
    refine ⟨true, ?_⟩
    rw [if_neg hrcv, if_neg hsnd, if_neg hnon, if_pos htls, if_pos hopen]
    rfl
  · cases hset
    refine ⟨true, ?_⟩
    rw [if_neg hrcv, if_neg hsnd, if_neg hnon, if_pos htls, if_neg hopen]
  · obtain ⟨ok, hseen⟩ := setServerCert_seen hw hheld hset
    refine ⟨ok, ?_⟩
    rw [if_neg hrcv, if_neg hsnd, if_neg hnon, if_neg htls, if_pos hcert, if_pos hopen]
    exact hseen
  · cases hset
    refine ⟨true, ?_⟩
    rw [if_neg hrcv, if_neg hsnd, if_neg hnon, if_neg htls, if_pos hcert, if_neg hopen]
  · obtain ⟨ok, hseen⟩ := setDestination_seen hw hheld hset
    refine ⟨ok, ?_⟩
    rw [if_neg hrcv, if_neg hsnd, if_neg hnon, if_neg htls, if_neg hcert, if_pos hname, if_pos hopen]
    exact hseen
  · cases hset
    refine ⟨true, ?_⟩
    rw [if_neg hrcv, if_neg hsnd, if_neg hnon, if_neg htls, if_neg hcert, if_pos hname, if_neg hopen]
  · cases hset
    refine ⟨true, ?_⟩
    rw [if_neg hrcv, if_neg hsnd, if_neg hnon, if_neg htls, if_neg hcert, if_neg hname]

/-- **The blocks of a socket.** On a socket that was created, calls that set the certificate and the name
while their pointers are `NULL` all return, and after each of them the law holds. -/
theorem socket_blocks_kept (hw : h₀.Wf)
    (hcreate : SOCKETS_Socket al h₀ lDomain lType lProtocol iotSocketCreate = some (h, some b))
    (hmeets : (calls al).Meets (FirstSet al) ⟨h, some b⟩ ops) :
    ∃ tr s, (calls al).exec? ⟨h, some b⟩ ops = some (tr, s) ∧
      ∀ tr₁ tr₂, tr = tr₁ ++ tr₂ → ∃ s₁, Exec (calls al) ⟨h, some b⟩ tr₁ s₁ ∧ SocketLaw tr₁ s₁ := by
  have hinv := created_inv hw hcreate
  obtain ⟨tr, s, hrun, hclean, hparts⟩ := hinv.run hmeets
  refine ⟨tr, s, hrun, fun tr₁ tr₂ htr => ?_⟩
  obtain ⟨s₁, hrun₁, hinv₁⟩ := hparts tr₁ tr₂ htr
  have hclean₁ : ∀ e ∈ tr₁, Clean e := fun e he => hclean e (htr ▸ List.mem_append_left tr₂ he)
  refine ⟨s₁, hrun₁, hinv₁.cert, hinv₁.name, fun e he => (hclean₁ e he).kept, fun hclosed p hp => ?_⟩
  exact freed_once hinv.wf hrun₁ hclean₁ hclosed hp

/-- `SOCKETS_SO_TRUSTED_SERVER_CERTIFICATE` with two bytes, and with three. -/
def twoBytes : Op := .setSockOpt SOCKETS_SO_TRUSTED_SERVER_CERTIFICATE ⟨[1, 2], by decide⟩ 0

def threeBytes : Op := .setSockOpt SOCKETS_SO_TRUSTED_SERVER_CERTIFICATE ⟨[3, 4, 5], by decide⟩ 0

def oneLetter : Op := .setSockOpt SOCKETS_SO_SERVER_NAME_INDICATION ⟨[97], by decide⟩ 0

/-- What `SOCKETS_Socket` leaves of an empty heap. -/
def newSocket : State :=
  ⟨⟨1, Function.update (fun _ => none) 0 (some (List.replicate 24 0))⟩,
    some ⟨0, 5, ⟨false, false, false, false⟩, none, none, 0⟩⟩

/-- The allocator that refuses the third request. -/
def refusesThird : Allocator := ⟨fun p _ => p ≠ 2, fun _ _ => 0⟩

theorem newSocket_created : SOCKETS_Socket .granting .empty 2 1 6 5 =
    some (newSocket.heap, newSocket.socket) := rfl

theorem socket_blocks_once : ∃ tr s, (calls .granting).exec? newSocket [twoBytes, oneLetter, .close 0] =
      some (tr, s) ∧
    ∀ tr₁ tr₂, tr = tr₁ ++ tr₂ → ∃ s₁, Exec (calls .granting) newSocket tr₁ s₁ ∧ SocketLaw tr₁ s₁ := by
  refine socket_blocks_kept Heap.wf_empty newSocket_created ?_
  refine ⟨⟨_, rfl, fun _ => rfl, fun h => absurd h (by decide)⟩, ?_⟩
  rintro _ _ ⟨⟩
  refine ⟨⟨_, rfl, fun h => absurd h (by decide), fun _ => ⟨rfl, fun _ => by decide⟩⟩, ?_⟩
  rintro _ _ ⟨⟩
  exact ⟨⟨_, rfl, trivial⟩, fun _ _ _ => trivial⟩

/-- The certificate is set twice. The first block is never freed; and when the second is refused, the pointer
is `NULL` and the length is still that of the first. -/
theorem socket_blocks_lost :
    (∃ tr s, (calls .granting).exec? newSocket [twoBytes, threeBytes, .close 0] = some (tr, s) ∧
      Allocated tr 1 ∧ timesFreed State.heap 1 tr = 0 ∧ ¬SocketLaw tr s) ∧
    (SOCKETS_Socket refusesThird .empty 2 1 6 5 = some (newSocket.heap, newSocket.socket) ∧
      ∃ tr s b, (calls refusesThird).exec? newSocket [twoBytes, threeBytes] = some (tr, s) ∧
        s.socket = some b ∧ b.server_cert = none ∧ b.server_cert_len = 2 ∧ ¬SocketLaw tr s) := by
  refine ⟨⟨_, _, rfl, ?_⟩, rfl, _, _, _, rfl, rfl, rfl, rfl, fun hlaw => ?_⟩
  · refine ⟨⟨_, List.mem_cons_self, Nat.le_refl 1, nofun⟩, rfl, fun hlaw => ?_⟩
    have hone := hlaw.freed rfl 1 ⟨_, List.mem_cons_self, Nat.le_refl 1, nofun⟩
    cases hone
  · have hlen : (2 : Nat) = 0 := hlaw.cert _ rfl
    cases hlen

end Sockets.OnHeap
