import Maestro.Effect.Course

/-!
# The Bluetooth test of `CombineCode`

`bluetoothTest` opens the adapter, asks it for the devices around, and tries to connect to
each of them. A failed call to the adapter ends the program. The `free` and the `close` at the
end of the source follow a branch whose two sides both return, so they never run.
-/

namespace Maestro.Combine.Bluetooth

open Effect

/-- A device address. -/
abbrev BdAddr := BitVec 48

def AF_BLUETOOTH : ℕ := 31
def SOCK_STREAM : ℕ := 1
def BTPROTO_RFCOMM : ℕ := 3
def IREQ_CACHE_FLUSH : ℕ := 1

/-- The size of an `inquiry_info`. -/
def sizeofInquiryInfo : ℕ := 14

/-- The address of an RFCOMM socket. -/
structure SockAddrRc where
  rc_family : ℕ
  rc_channel : ℕ
  rc_bdaddr : BdAddr

/-- The number of responses to an inquiry, negative for an error, and the addresses in them. -/
structure Inquiry where
  num_rsp : ℤ
  bdaddr : ℕ → BdAddr

/-- What the Bluetooth test prints. -/
inductive BluetoothLine where
  | deviceAddress (addr : String)
  | deviceName (name : String)
  | connected
  | noDevices
deriving DecidableEq

/-- The printed text. -/
def BluetoothLine.text : BluetoothLine → String
  | deviceAddress addr => "Device Address: " ++ addr ++ "\n"
  | deviceName name => "Device Name: " ++ name ++ "\n"
  | connected => "Device is connected.\n"
  | noDevices => "No connected devices.\n"

/-- The calls of the Bluetooth test. -/
inductive BluetoothCall where
  | hci_get_route
  | hci_open_dev (dev_id : ℤ)
  | malloc (size : ℕ)
  | hci_inquiry (dev_id : ℤ) (len max_rsp : ℕ) (ii : Option ℕ) (flags : ℕ)
  | ba2str (bdaddr : BdAddr)
  | hci_read_remote_name (sock : ℤ) (bdaddr : BdAddr) (len timeout : ℕ)
  | socket (domain type protocol : ℕ)
  | str2ba (addr : String)
  | connect (fd : ℤ) (addr : SockAddrRc)
  | close (fd : ℤ)
  | perror (name : String)
  | printf (line : BluetoothLine)

/-- The calls are answered with an `int`, negative for an error; those that fill a buffer, with
its contents as well. -/
abbrev BluetoothCalls : Interface where
  Call := BluetoothCall
  Reply
    | .hci_get_route => ℤ
    | .hci_open_dev _ => ℤ
    | .malloc _ => Option ℕ
    | .hci_inquiry _ _ _ _ _ => Inquiry
    | .ba2str _ => String
    | .hci_read_remote_name _ _ _ _ => ℤ × String
    | .socket _ _ _ => ℤ
    | .str2ba _ => BdAddr
    | .connect _ _ => ℤ
    | .close _ => ℤ
    | .perror _ => Unit
    | .printf _ => Unit

abbrev BluetoothProg (ε α : Type) := Prog BluetoothCalls ε α

section Calls

variable {ε : Type}

def hci_get_route : BluetoothProg ε ℤ := Prog.perform (I := BluetoothCalls) .hci_get_route

def hci_open_dev (dev_id : ℤ) : BluetoothProg ε ℤ :=
  Prog.perform (I := BluetoothCalls) (.hci_open_dev dev_id)

def malloc (size : ℕ) : BluetoothProg ε (Option ℕ) := Prog.perform (I := BluetoothCalls) (.malloc size)

def hci_inquiry (dev_id : ℤ) (len max_rsp : ℕ) (ii : Option ℕ) (flags : ℕ) : BluetoothProg ε Inquiry :=
  Prog.perform (I := BluetoothCalls) (.hci_inquiry dev_id len max_rsp ii flags)

def ba2str (bdaddr : BdAddr) : BluetoothProg ε String :=
  Prog.perform (I := BluetoothCalls) (.ba2str bdaddr)

def hci_read_remote_name (sock : ℤ) (bdaddr : BdAddr) (len timeout : ℕ) : BluetoothProg ε (ℤ × String) :=
  Prog.perform (I := BluetoothCalls) (.hci_read_remote_name sock bdaddr len timeout)

def socket (domain type protocol : ℕ) : BluetoothProg ε ℤ :=
  Prog.perform (I := BluetoothCalls) (.socket domain type protocol)

def str2ba (addr : String) : BluetoothProg ε BdAddr := Prog.perform (I := BluetoothCalls) (.str2ba addr)

def connect (fd : ℤ) (addr : SockAddrRc) : BluetoothProg ε ℤ :=
  Prog.perform (I := BluetoothCalls) (.connect fd addr)

def close (fd : ℤ) : BluetoothProg ε ℤ := Prog.perform (I := BluetoothCalls) (.close fd)

def perror (name : String) : BluetoothProg ε Unit := Prog.perform (I := BluetoothCalls) (.perror name)

def printf (line : BluetoothLine) : BluetoothProg ε Unit :=
  Prog.perform (I := BluetoothCalls) (.printf line)

end Calls

section Program

variable {ε : Type}

/-- Count a device that could be connected to, and print it. -/
def reportDevice (status : ℤ) (addr name : String) (connected_devices : ℤ) : BluetoothProg ε ℤ :=
  if status = 0 then do
    printf (.deviceAddress addr)
    printf (.deviceName name)
    printf .connected
    return connected_devices + 1
  else return connected_devices

/-- The loop body: look up the name of one device and try to connect to it. -/
def checkDevice (sock : ℤ) (ii : Inquiry) (connected_devices : ℤ) (i : ℕ) : BluetoothProg ε ℤ := do
  let addr ← ba2str (ii.bdaddr i)
  let read ← hci_read_remote_name sock (ii.bdaddr i) 248 0
  let name := if read.1 < 0 then "[unknown]" else read.2
  let rfcomm_sock ← socket AF_BLUETOOTH SOCK_STREAM BTPROTO_RFCOMM
  let bdaddr ← str2ba addr
  let status ← connect rfcomm_sock ⟨AF_BLUETOOTH, 1, bdaddr⟩
  let connected_devices ← reportDevice status addr name connected_devices
  let _ ← close rfcomm_sock
  return connected_devices

/-- The verdict. -/
def judge (connected_devices : ℤ) : BluetoothProg ε ℤ :=
  if connected_devices = 0 then do
    printf .noDevices
    return 0
  else return 1

end Program

def len : ℕ := 8
def max_rsp : ℕ := 255
def flags : ℕ := IREQ_CACHE_FLUSH

/-- The test. -/
def bluetoothTest : BluetoothProg Exit ℤ := do
  let dev_id ← hci_get_route
  if dev_id < 0 then do
    perror "hci_get_route"
    Prog.exit 1
  else do
    let sock ← hci_open_dev dev_id
    if sock < 0 then do
      perror "hci_open_dev"
      Prog.exit 1
    else do
      let buffer ← malloc (max_rsp * sizeofInquiryInfo)
      let ii ← hci_inquiry dev_id len max_rsp buffer flags
      if ii.num_rsp < 0 then do
        perror "hci_inquiry"
        Prog.exit 1
      else do
        let connected_devices ← (List.range ii.num_rsp.toNat).foldlM (checkDevice sock ii) 0
        judge connected_devices

end Maestro.Combine.Bluetooth
