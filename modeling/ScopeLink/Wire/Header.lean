import ScopeLink.Bytes
import ScopeLink.Wire.Tag
/-!
# Transfer headers

Twelve bytes stand before every bulk transfer: message id, tag, complement of the tag, a reserved
byte, the size of the payload in four bytes (least significant first), the attributes, and three
reserved bytes. The lowest attribute bit marks the end of a message. A request and a reply share
one id and are told apart by the direction they go in.
-/

namespace ScopeLink

/-- The fields of a `MsgHeader`; the reserved bytes are not kept. -/
structure Header where
  messageId : UInt8
  tag : UInt8
  /-- The complement of the tag, if the sender kept to the rules. -/
  inverse : UInt8
  size : UInt32
  attributes : UInt8
deriving DecidableEq, Repr

namespace Header

/-- The size of a header (`HEADER_SIZE`). -/
def byteCount : Nat := 12

/-- The ids of a message to the device (`DEVICE_DEPENDENT_MSG_OUT`), a request for a reply
(`REQUEST_DEVICE_DEPENDENT_MSG_IN`), and a reply (`DEVICE_DEPENDENT_MSG_IN`). -/
def outId : UInt8 := 1
def requestId : UInt8 := 2
def replyId : UInt8 := 2

def endOfMessageBit : UInt8 := 1

/-- A header whose tag comes with its complement. -/
def tagged (messageId tag : UInt8) (size : UInt32) (attributes : UInt8) : Header :=
  { messageId, tag, inverse := Tag.complement tag, size, attributes }

/-- The header of a message (`dev_dep_msg_out`). -/
def out (tag : UInt8) (size : UInt32) (last : Bool) : Header :=
  tagged outId tag size (if last then endOfMessageBit else 0)

/-- Asks the device for at most `size` bytes (`request_dev_dep_msg_in`). -/
def request (tag : UInt8) (size : UInt32) : Header := tagged requestId tag size 0

/-- The header of a reply (`dev_dep_msg_in`). -/
def reply (tag : UInt8) (size : UInt32) (last : Bool) : Header :=
  tagged replyId tag size (if last then endOfMessageBit else 0)

/-- Whether the message ends with this transfer (`end_of_message`). -/
def endOfMessage (h : Header) : Bool := h.attributes &&& endOfMessageBit != 0

/-- Whether tag and inverse belong together (`tag_is_consistent`). -/
def tagConsistent (h : Header) : Bool := h.inverse == Tag.complement h.tag

def encode (h : Header) : Bytes :=
  [h.messageId, h.tag, h.inverse, 0] ++ Bytes.littleEndian 4 h.size.toNat ++ [h.attributes, 0, 0, 0]

/-- The header at the start of `b` (`decode`); nothing if `b` is shorter than a header. -/
def decode (b : Bytes) : Option Header :=
  if b.length < byteCount then none
  else some {
    messageId := b.getD 0 0
    tag := b.getD 1 0
    inverse := b.getD 2 0
    size := UInt32.ofNat (Bytes.ofLittleEndian ((b.drop 4).take 4))
    attributes := b.getD 8 0 }

@[simp] theorem length_encode (h : Header) : h.encode.length = byteCount := by
  simp [encode, byteCount]

theorem ofNat_ofLittleEndian (n : UInt32) :
    UInt32.ofNat (Bytes.ofLittleEndian (Bytes.littleEndian 4 n.toNat)) = n := by
  have h : n.toNat % 4294967296 = n.toNat := Nat.mod_eq_of_lt n.toNat_lt
  rw [Bytes.ofLittleEndian_littleEndian_four, h, UInt32.ofNat_toNat]

/-- A header reads back, whatever follows it. -/
theorem decode_encode_append (h : Header) (rest : Bytes) : decode (h.encode ++ rest) = some h := by
  have hlen : ¬ (h.encode ++ rest).length < byteCount := by simp
  have hsize : ((h.encode ++ rest).drop 4).take 4 = Bytes.littleEndian 4 h.size.toNat := by
    simp [encode, Bytes.littleEndian]
  rw [decode, if_neg hlen, hsize, ofNat_ofLittleEndian]
  simp [encode, Bytes.littleEndian]

theorem decode_encode (h : Header) : decode h.encode = some h := by
  rw [← List.append_nil h.encode]
  exact decode_encode_append h []

theorem decode_eq_none_iff {b : Bytes} : decode b = none ↔ b.length < byteCount := by
  unfold decode
  split <;> simp_all

theorem tagConsistent_tagged (messageId tag : UInt8) (size : UInt32) (attributes : UInt8) :
    (tagged messageId tag size attributes).tagConsistent = true := by
  simp [tagConsistent, tagged]

theorem endOfMessage_reply (tag : UInt8) (size : UInt32) (last : Bool) :
    (reply tag size last).endOfMessage = last := by
  cases last <;> simp [reply, tagged, endOfMessage, endOfMessageBit]

theorem endOfMessage_out (tag : UInt8) (size : UInt32) (last : Bool) : (out tag size last).endOfMessage = last :=
  endOfMessage_reply tag size last

end Header

end ScopeLink
