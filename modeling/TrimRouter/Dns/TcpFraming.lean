import TrimRouter.Dns.Worker
import TrimRouter.Lib.Framing

/-!
# DNS messages on TCP connections

The task of a client's connection, with the functions that read and write a message after its
length.  A connection is read and written as a stream that arrives in pieces, on which a wait may be
given up.
-/

namespace TrimRouter.Dns

open Chunked

abbrev TcpReader := List (Input (BitVec 8))

abbrev TcpWriter := Chunked.Writer (BitVec 8)

/-! ## The functions -/

/-- `std::io::ErrorKind`, as far as the source names it. -/
inductive ErrorKind where
  | invalidData
  | timedOut
  | unexpectedEof
deriving DecidableEq

/-- `std::io::Error`: one that the source makes, or one of the operating system. -/
inductive IoError where
  | new (kind : ErrorKind) (message : String)
  | os
deriving DecidableEq

/-- `read_tcp_dns_query`. -/
def readTcpDnsQuery (reader : TcpReader) : Option (Bytes × TcpReader) :=
  match readExact 2 reader with
  | .error _ => none
  | .ok (lenBuf, reader) =>
    let queryLen := (xid lenBuf).toNat
    if dnsHeaderSize ≤ queryLen ∧ queryLen ≤ tcpMaxMessageSize then
      match readExact queryLen reader with
      | .error _ => none
      | .ok (queryBuf, reader) => some (queryBuf, reader)
    else none

/-- `write_tcp_dns_reply`. -/
def writeTcpDnsReply (writer : TcpWriter) (reply : Bytes) : Except IoError Unit × TcpWriter :=
  if tcpMaxMessageSize < reply.length then
    (.error (.new .invalidData "DNS reply exceeds TCP max message size"), writer)
  else
    match writer.writeAll (toBeBytes (BitVec.ofNat 16 reply.length)) with
    | (false, writer) => (.error .os, writer)
    | (true, writer) =>
      match writer.writeAll reply with
      | (false, writer) => (.error .os, writer)
      | (true, writer) => (.ok (), writer)

/-- Write messages one after another, until one cannot be written. -/
def writeTcpDnsReplies (writer : TcpWriter) : List Bytes → Except IoError Unit × TcpWriter
  | [] => (.ok (), writer)
  | reply :: replies =>
    match writeTcpDnsReply writer reply with
    | (.error e, writer) => (.error e, writer)
    | (.ok (), writer) => writeTcpDnsReplies writer replies

/-- `TcpQueryRequest`, without the channel for the reply. -/
structure TcpQueryRequest where
  query : Bytes
  peerAddr : SocketAddr
deriving DecidableEq

/-- The task of a client's connection.  `requests` are those that the worker has got from it. -/
structure Connection where
  reader : TcpReader
  writer : TcpWriter
  peerAddr : SocketAddr
  requests : List TcpQueryRequest
  closed : Bool
deriving DecidableEq

/-- What becomes of a request: the worker is gone, drops it, or replies. -/
inductive Answer where
  | unsent
  | dropped
  | reply (reply : Bytes)
deriving DecidableEq

/-- An iteration of the loop of `handle_tcp_client_connection`. -/
def handleTcpClientConnection (c : Connection) (answer : Answer) : Option Connection :=
  if c.closed then none
  else
    match readTcpDnsQuery c.reader with
    | none => some { c with closed := true }
    | some (query, reader) =>
      let sent : Connection :=
        { c with reader := reader, requests := c.requests ++ [⟨query, c.peerAddr⟩] }
      match answer with
      | .unsent => some { c with reader := reader, closed := true }
      | .dropped => some { sent with closed := true }
      | .reply reply =>
        match writeTcpDnsReply c.writer reply with
        | (.error _, writer) => some { sent with writer := writer, closed := true }
        | (.ok (), writer) => some { sent with writer := writer }

/-! ## Frames -/

/-- The framing by a length of two bytes. -/
def tcpFraming : Framing (BitVec 8) where
  headerSize := 2
  headerSize_pos := by decide
  announced lenBuf := (xid lenBuf).toNat
  Accepts n := dnsHeaderSize ≤ n ∧ n ≤ tcpMaxMessageSize
  decidable _ := inferInstanceAs (Decidable (_ ∧ _))

/-- A message after its length. -/
def frame (message : Bytes) : Bytes := toBeBytes (BitVec.ofNat 16 message.length) ++ message

variable {reader reader' : TcpReader} {writer : TcpWriter} {message : Bytes}
  {messages : List Bytes}

theorem isFramed_iff : isFramed message = true ↔
    dnsHeaderSize ≤ message.length ∧ message.length ≤ tcpMaxMessageSize := by
  simp [isFramed]

theorem readTcpDnsQuery_eq : readTcpDnsQuery = tcpFraming.read := by
  funext reader
  unfold readTcpDnsQuery Framing.read
  rw [show tcpFraming.headerSize = 2 from rfl]
  rcases readExact 2 reader with e | ⟨lenBuf, reader⟩
  · rfl
  · have announced : tcpFraming.announced lenBuf = (xid lenBuf).toNat := rfl
    simp only [announced]
    rcases readExact (xid lenBuf).toNat reader with e | ⟨queryBuf, reader⟩
    · rfl
    · rfl

theorem frames_frame (framed : isFramed message = true) :
    tcpFraming.Frames message (frame message) := by
  have bounds := isFramed_iff.mp framed
  refine ⟨toBeBytes (BitVec.ofNat 16 message.length), rfl, rfl, ?_, bounds⟩
  have fits : message.length < 2 ^ 16 := Nat.lt_succ_of_le bounds.2
  have number := xid_toBeBytes_append (n := BitVec.ofNat 16 message.length) []
  rw [List.append_nil] at number
  change (xid _).toNat = _
  rw [number, BitVec.toNat_ofNat, Nat.mod_eq_of_lt fits]

theorem readTcpDnsQuery_short {hi lo : BitVec 8} {rest : Bytes}
    (next : available reader = hi :: lo :: rest) (short : (hi ++ lo).toNat < dnsHeaderSize) :
    readTcpDnsQuery reader = none := by
  cases read : readTcpDnsQuery reader with
  | none => rfl
  | some result =>
    -- a message that is read has an acceptable length, and it is the one announced
    rw [readTcpDnsQuery_eq] at read
    obtain ⟨frame, ⟨header, rfl, size, announced, accepts⟩, split, -⟩ := Framing.read_eq_some read
    rw [next] at split
    obtain ⟨a, b, rfl⟩ := List.length_eq_two.mp size
    cases split
    have long := accepts.1
    rw [← announced] at long
    exact absurd short (Nat.not_lt_of_le long)

theorem readTcpDnsQuery_nil (nothing : available reader = []) : readTcpDnsQuery reader = none := by
  unfold readTcpDnsQuery
  rw [readExact_of_lt (by rw [nothing]; decide)]

theorem writeTcpDnsReply_of_le (unbroken : writer.room = none)
    (fits : message.length ≤ tcpMaxMessageSize) :
    writeTcpDnsReply writer message = (.ok (), ⟨writer.written ++ frame message, none⟩) := by
  simp only [writeTcpDnsReply, if_neg (Nat.not_lt_of_le fits), Chunked.Writer.writeAll, unbroken,
    List.append_assoc, frame]

theorem writeTcpDnsReplies_of_le (unbroken : writer.room = none)
    (fit : ∀ message ∈ messages, message.length ≤ tcpMaxMessageSize) :
    writeTcpDnsReplies writer messages =
      (.ok (), ⟨writer.written ++ (messages.map frame).flatten, none⟩) := by
  induction messages generalizing writer with
  | nil =>
    obtain ⟨written, room⟩ := writer
    cases unbroken
    rw [writeTcpDnsReplies, List.map_nil, List.flatten_nil, List.append_nil]
  | cons message messages ih =>
    have first := writeTcpDnsReply_of_le unbroken (fit message List.mem_cons_self)
    have rest := @ih ⟨writer.written ++ frame message, none⟩ rfl
      fun message member => fit message (List.mem_cons_of_mem _ member)
    rw [writeTcpDnsReplies, first]
    simp only [rest, List.map_cons, List.flatten_cons, List.append_assoc]

/-- The queries that a client has framed are read, in whatever pieces they arrive. -/
theorem readAll_frames {rest : Bytes} (framed : ∀ message ∈ messages, isFramed message = true)
    (next : available reader = (messages.map frame).flatten ++ rest)
    (stop : ∀ reader', available reader' = rest → readTcpDnsQuery reader' = none) :
    ∃ reader', readAll readTcpDnsQuery reader = (messages, reader') ∧ available reader' = rest ∧
      ending reader' = ending reader := by
  have all : List.Forall₂ tcpFraming.Frames messages (messages.map frame) := by
    rw [List.forall₂_map_right_iff, List.forall₂_same]
    exact fun message member => frames_frame (framed message member)
  rw [readTcpDnsQuery_eq] at stop ⊢
  exact Framing.readAll_frames all next fun reader' left _ => stop reader' left

/-- What is written is read back in whatever pieces it arrives, and then the stream ends; a length
below that of a header closes the connection and nothing is delivered; and of a message that is too
long nothing is written. -/
theorem tcp_framing :
    (∀ messages : List Bytes, (∀ message ∈ messages, 12 ≤ message.length ∧
        message.length ≤ 65535) →
      ∃ writer, writeTcpDnsReplies ⟨[], none⟩ messages = (.ok (), writer) ∧
        ∀ chunks : List Bytes, chunks.flatten = writer.written →
          ∃ reader, readAll readTcpDnsQuery (chunks.map .data) = (messages, reader) ∧
            readTcpDnsQuery reader = none ∧ available reader = [] ∧ ending reader = .eof) ∧
    (∀ (c : Connection) (hi lo : BitVec 8) (rest : Bytes), c.closed = false →
      available c.reader = hi :: lo :: rest → (hi ++ lo).toNat < 12 →
      ∀ answer, handleTcpClientConnection c answer = some { c with closed := true }) ∧
    ∀ (writer : TcpWriter) (message : Bytes), 65535 < message.length →
      writeTcpDnsReply writer message =
        (.error (.new .invalidData "DNS reply exceeds TCP max message size"), writer) := by
  refine ⟨?_, ?_, ?_⟩
  · intro messages sized
    have framed : ∀ message ∈ messages, isFramed message = true :=
      fun message member => isFramed_iff.mpr (sized message member)
    refine ⟨_, writeTcpDnsReplies_of_le rfl fun message member => (sized message member).2, ?_⟩
    intro chunks written
    have next : available (chunks.map .data) = (messages.map frame).flatten ++ [] := by
      rw [available_map_data, written, List.nil_append, List.append_nil]
    obtain ⟨reader, read, left, ended⟩ :=
      readAll_frames framed next fun reader nothing => readTcpDnsQuery_nil nothing
    exact ⟨reader, read, readTcpDnsQuery_nil left, left, ended.trans ending_map_data⟩
  · intro c hi lo rest opened next short answer
    unfold handleTcpClientConnection
    rw [opened, if_neg (by decide), readTcpDnsQuery_short next short]
  · intro writer message long
    unfold writeTcpDnsReply
    exact if_pos long

/-- Two messages that arrive byte by byte, a length of three, and a message of 65536 bytes. -/
theorem tcp_framing_of_messages :
    (∃ reader, readAll readTcpDnsQuery
        ((writeTcpDnsReplies ⟨[], none⟩ [List.replicate 12 1, List.replicate 13 2]).2.written.map
          fun byte => .data [byte]) =
      ([List.replicate 12 1, List.replicate 13 2], reader) ∧ readTcpDnsQuery reader = none) ∧
    handleTcpClientConnection
        ⟨[.data [0], .data [3, 1, 2, 3]], ⟨[], none⟩, ⟨.v6 1, 4000⟩, [], false⟩ .unsent =
      some ⟨[.data [0], .data [3, 1, 2, 3]], ⟨[], none⟩, ⟨.v6 1, 4000⟩, [], true⟩ ∧
    writeTcpDnsReply ⟨[], none⟩ (List.replicate 65536 0) =
      (.error (.new .invalidData "DNS reply exceeds TCP max message size"), ⟨[], none⟩) := by
  refine ⟨?_, ?_, ?_⟩
  · obtain ⟨writer, written, back⟩ :=
      tcp_framing.1 [List.replicate 12 1, List.replicate 13 2] (by decide)
    rw [written]
    have pieces : (writer.written.map fun byte => [byte]).flatten = writer.written := by
      rw [← List.flatMap_def, List.flatMap_singleton']
    obtain ⟨reader, read, stop, -⟩ := back _ pieces
    rw [List.map_map] at read
    exact ⟨reader, read, stop⟩
  · exact tcp_framing.2.1 _ 0 3 [1, 2, 3] rfl rfl (by decide) .unsent
  · exact tcp_framing.2.2 _ _ (by rw [List.length_replicate]; decide)

end TrimRouter.Dns
