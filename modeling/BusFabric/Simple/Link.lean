import BusFabric.Word

set_option autoImplicit false

namespace BusFabric.Simple

/-- A read or write of one bus word. -/
structure Request where
  /-- The byte address of the word. -/
  address : Address
  /-- The data to write; zero in a read. -/
  data : Data
  /-- The lanes to read or write. -/
  select : Strobe
  write : Bool
  deriving DecidableEq

def Request.read (address : Address) (select : Strobe) : Request :=
  ⟨address, 0, select, false⟩

/-- The acknowledge of a request. -/
structure Response where
  /-- The data read; zero after a write or an error. -/
  data : Data
  error : Bool
  deriving DecidableEq

/-- The slave carried the request out. -/
def Response.ok (data : Data) : Response :=
  ⟨data, false⟩

def Response.refused : Response :=
  ⟨0, true⟩

/-- The state of a connection between one master and one slave. The master keeps a request up until
the slave acknowledges it, with data or with an error; when the master has seen the acknowledge, the
link is idle again. -/
inductive Link where
  | idle
  /-- The request waits for its acknowledge. -/
  | waiting (request : Request)
  /-- The acknowledge waits for the master, which still holds its request. -/
  | answered (request : Request) (response : Response)
  deriving DecidableEq

namespace Link

/-- The request that the master holds, acknowledged or not. -/
def request? : Link → Option Request
  | idle => none
  | waiting request | answered request _ => some request

def awaiting? : Link → Option Request
  | waiting request => some request
  | idle | answered _ _ => none

/-- The acknowledge that the master has not seen yet. -/
def response? : Link → Option Response
  | answered _ response => some response
  | idle | waiting _ => none

/-- Raises a request; `none` while another is up. -/
def issue? : Link → Request → Option Link
  | idle, request => some (waiting request)
  | waiting _, _ | answered _ _, _ => none

/-- Acknowledges the waiting request; `none` if there is none. -/
def acknowledge? : Link → Response → Option Link
  | waiting request, response => some (answered request response)
  | idle, _ | answered _ _, _ => none

/-- Acknowledges the waiting request, if there is one. -/
def acknowledge (link : Link) (response : Response) : Link :=
  (link.acknowledge? response).getD link

/-- The link after its master saw the acknowledge, if there is one, and lowered the request. -/
def completed : Link → Link
  | idle | answered _ _ => idle
  | waiting request => waiting request

def isIdle : Link → Bool
  | idle => true
  | waiting _ | answered _ _ => false

end Link

end BusFabric.Simple
