import Tr069Manager.Lib.Runs
import Tr069Manager.Lib.Table
import Tr069Manager.ManageableDevices.HostList

/-!
# The manageable devices

The part of the plugin that keeps `ManagementServer.ManageableDevice.`
(`cwmp_plugin_manageable_device.c`). A query on the devices of `gmap` calls back when a
device starts or stops to match, and a subscription when a row of `Hosts.Host.` gets another
`PhysAddress`. A device that starts to match is listed with the hosts that have its address,
or it is cached until one gets it.

The variant `manageableDevice` is emptied after each host that is added, and what is empty is
no longer a table that could be given a value: this is the `none` of the information on a
device. What stands outside is a parameter (`Tr069.BusLibrary`): the search for an instance
by an expression over three of its parameters, and the order in which a hash table is iterated.
The data model takes the texts that fit the limits of its parameters, and the paths listed
are those of rows that exist.
-/

namespace Tr069

/-! ### The data -/

/-- What the plugin reads of a device of `gmap`, beside its key. -/
structure GmapDevice where
  physAddress : Option CString
  oui : Option CString
  serialNumber : Option CString
  productClass : Option CString

/-- The three parameters that tell devices apart. -/
structure DeviceIdentity where
  manufacturerOui : CString
  serialNumber : CString
  productClass : CString
  deriving DecidableEq

/-- `ManagementServer.ManageableDevice.{i}.` -/
structure ManageableDevice where
  identity : DeviceIdentity
  host : CString
  deriving DecidableEq

/-- The information on a device, as it is cached. -/
structure ManageableDeviceInfo where
  host : Option CString
  key : Option CString
  physAddress : Option CString
  manufacturerOui : Option CString
  serialNumber : Option CString
  productClass : Option CString
  deriving DecidableEq

/-- What lies outside the plugin. The search finds the only instance that has an identity,
if the expression takes its three texts for what they are, and a hash table that is iterated
gives each entry once. -/
structure BusLibrary where
  find : List (ℕ × DeviceIdentity) → DeviceIdentity → Option ℕ
  Plain : DeviceIdentity → Prop
  order : ∀ {α : Type}, List (ℕ × α) → List (ℕ × α)
  find_none : ∀ {table id}, Plain id → (∀ n, (n, id) ∉ table) → find table id = none
  find_only : ∀ {table id n}, Plain id → (n, id) ∈ table → (∀ m, (m, id) ∈ table → m = n) →
    find table id = some n
  order_perm : ∀ {α : Type} (table : List (ℕ × α)), (order table).Perm table

/-- The instances of `ManageableDevice`, with the number of the last one that was added. -/
structure DeviceTable where
  instances : Table ℕ ManageableDevice
  lastIndex : ℕ

/-- The plugin with the `Hosts` table it reads. The history has the keys of the devices that
match. -/
structure ManageableDevices where
  hosts : Table ℕ CString
  table : DeviceTable
  mdRequests : List ManageableDeviceInfo
  matching : List CString

/-- What the plugin is told. Whether `Devices.Device.{key}.PhysAddress` can still be read
when a device stops to match is up to `gmap`. -/
inductive DeviceEvent where
  | startMatching (key : CString)
  | stopMatching (key : CString) (read : Bool)
  | hostPhysChanged (host : ℕ) (physaddress : CString)
  deriving DecidableEq

variable {lib : BusLibrary}

/-! ### The data model -/

/-- The checks of the three parameters. -/
def DeviceIdentity.Fits (id : DeviceIdentity) : Prop :=
  id.manufacturerOui.length ≤ 6 ∧ id.serialNumber.length ≤ 64 ∧ id.productClass.length ≤ 64

instance DeviceIdentity.decidableFits (id : DeviceIdentity) : Decidable id.Fits :=
  inferInstanceAs (Decidable (_ ∧ _ ∧ _))

/-- The check of `Host`. -/
def hostMaximum : ℕ := 1024

namespace DeviceTable

/-- `cwmp_plugin_get_matching_path`. -/
def getMatchingPath (lib : BusLibrary) (t : DeviceTable) (host : CString) : Option ℕ :=
  ((lib.order t.instances.entries).find? fun e => (CString.strstr e.2.host host).isSome).map
    Prod.fst

/-- `cwmp_plugin_set_manageable_host_param`. -/
def setManageableHostParam (t : DeviceTable) (index : ℕ) (hostList : CString) :
    Option DeviceTable :=
  if hostList.length ≤ hostMaximum then
    some { t with instances := t.instances.modify index fun md => { md with host := hostList } }
  else none

/-- `cwmp_plugin_add_manageable_host`. -/
def addManageableHost (t : DeviceTable) (index : ℕ) (host : CString) : Option DeviceTable :=
  (t.instances.find index).bind fun md =>
    if (CString.strstr md.host host).isSome then some t
    else t.setManageableHostParam index (md.host ++ host ++ [','])

/-- `cwmp_plugin_create_manageable_device`. -/
def createManageableDevice (t : DeviceTable) (id : DeviceIdentity) (host : CString) :
    Option DeviceTable :=
  if id.Fits ∧ (host ++ [',']).length ≤ hostMaximum then
    some {
      instances := t.instances.put (t.lastIndex + 1) ⟨id, host ++ [',']⟩
      lastIndex := t.lastIndex + 1 }
  else none

/-- `cwmp_plugin_del_manageable_device`. -/
def delManageableDevice (t : DeviceTable) (index : ℕ) : DeviceTable :=
  { t with instances := t.instances.remove index }

/-- `cwmp_plugin_update_manageable_device`. -/
def updateManageableDevice (t : DeviceTable) (index : ℕ) (host : CString) : Option DeviceTable :=
  (t.instances.find index).bind fun md =>
    if (CString.strstr (hostsWithout md.host host) hostWord).isNone then
      some (t.delManageableDevice index)
    else t.setManageableHostParam index (hostsWithout md.host host)

/-- What the search by an expression looks at. -/
def identities (t : DeviceTable) : List (ℕ × DeviceIdentity) :=
  t.instances.entries.map fun e => (e.1, e.2.identity)

end DeviceTable

/-! ### The information on a device -/

/-- The identity, if there are all three texts. -/
def identityOf (moui sn pc : Option CString) : Option DeviceIdentity :=
  moui.bind fun moui => sn.bind fun sn => pc.map fun pc => ⟨moui, sn, pc⟩

/-- The identity of a device. -/
def GmapDevice.identity (device : GmapDevice) : Option DeviceIdentity :=
  identityOf device.oui device.serialNumber device.productClass

/-- The information that is put into an empty table. -/
def GmapDevice.info (device : GmapDevice) (key : CString) (host : Option CString) :
    ManageableDeviceInfo where
  host := host
  key := some key
  physAddress := device.physAddress
  manufacturerOui := device.oui
  serialNumber := device.serialNumber
  productClass := device.productClass

/-- The empty table. -/
def ManageableDeviceInfo.empty : ManageableDeviceInfo := ⟨none, none, none, none, none, none⟩

/-- The host is put into a table that may have one. A value that is there is not set again. -/
def ManageableDeviceInfo.addHost (info : ManageableDeviceInfo) (host : CString) :
    ManageableDeviceInfo :=
  { info with host := info.host <|> some host }

/-- `cwmp_plugin_set_manageable_deviceinfo`, on an empty table, or on what is no table. -/
def setManageableDeviceinfo (manageableDeviceInfo : Option ManageableDeviceInfo)
    (device : GmapDevice) (key : CString) (host : Option CString) : Option ManageableDeviceInfo :=
  manageableDeviceInfo.map fun _ => device.info key host

/-- `cwmp_plugin_add_manageable_device`. A failure leaves the instances as they are. -/
def DeviceTable.addManageableDevice (lib : BusLibrary) (t : DeviceTable)
    (manageableDeviceInfo : Option ManageableDeviceInfo) : Option DeviceTable :=
  manageableDeviceInfo.bind fun info =>
    (identityOf info.manufacturerOui info.serialNumber info.productClass).bind fun id =>
      info.host.bind fun host =>
        match lib.find t.identities id with
        | some index => t.addManageableHost index host
        | none => t.createManageableDevice id host

namespace ManageableDevices

/-! ### The hosts of a device -/

/-- `cwmp_plugin_search_for_hosts`, without its result, which is whether there are any. -/
def searchForHosts (lib : BusLibrary) (s : ManageableDevices) (mac : Option CString) :
    List CString :=
  match mac with
  | none => []
  | some mac =>
    ((lib.order s.hosts.entries).filter fun e => e.2.EqIgnoringCase mac).map fun e => hostPath e.1

/-- `cwmp_plugin_search_for_hosts_by_device_key`. -/
def searchForHostsByDeviceKey (lib : BusLibrary) (devices : CString → GmapDevice)
    (s : ManageableDevices) (key : CString) (read : Bool) : List CString :=
  if read then s.searchForHosts lib (devices key).physAddress else []

/-! ### The cache -/

/-- `cwmp_plugin_md_cache_find`: the place of the first entry. -/
def mdCacheFind (s : ManageableDevices) (parameter : ManageableDeviceInfo → Option CString)
    (value : CString) : Option ℕ :=
  s.mdRequests.findIdx? fun md => parameter md = some value

/-- `cwmp_plugin_add_manageable_device_to_cache`. -/
def addManageableDeviceToCache (s : ManageableDevices) (info : ManageableDeviceInfo) :
    ManageableDevices :=
  { s with mdRequests := s.mdRequests ++ [info] }

/-- `cwmp_plugin_clean_manageable_device_cache`. -/
def cleanManageableDeviceCache (s : ManageableDevices) (key : CString) : ManageableDevices :=
  match s.mdCacheFind ManageableDeviceInfo.key key with
  | some n => { s with mdRequests := s.mdRequests.eraseIdx n }
  | none => s

/-! ### The callbacks -/

/-- The loop over the hosts of a device that starts to match. The information is emptied at
the end of each pass. -/
def addHosts (lib : BusLibrary) (device : GmapDevice) (key : CString) :
    Option ManageableDeviceInfo → List CString → DeviceTable → DeviceTable
  | _, [], t => t
  | manageableDevice, host :: hosts, t =>
    match t.addManageableDevice lib
      (setManageableDeviceinfo manageableDevice device key (some host)) with
    | some u => addHosts lib device key none hosts u
    | none => t

/-- The loop over the hosts of a device that stops to match. -/
def removeHosts (lib : BusLibrary) : List CString → DeviceTable → DeviceTable
  | [], t => t
  | host :: hosts, t =>
    match (t.getMatchingPath lib host).bind fun index => t.updateManageableDevice index host with
    | some u => removeHosts lib hosts u
    | none => t

/-- `cwmp_plugin_manageable_query`, for a device that starts to match. -/
def startMatching (lib : BusLibrary) (devices : CString → GmapDevice) (s : ManageableDevices)
    (key : CString) : ManageableDevices :=
  match s.searchForHosts lib (devices key).physAddress with
  | [] => s.addManageableDeviceToCache ((devices key).info key none)
  | hosts => { s with table := addHosts lib (devices key) key (some .empty) hosts s.table }

/-- `cwmp_plugin_manageable_query`, for a device that stops to match. -/
def stopMatching (lib : BusLibrary) (devices : CString → GmapDevice) (s : ManageableDevices)
    (key : CString) (read : Bool) : ManageableDevices :=
  { s.cleanManageableDeviceCache key with
    table := removeHosts lib (s.searchForHostsByDeviceKey lib devices key read) s.table }

/-- `cwmp_plugin_host_phys_changed`. -/
def hostPhysChanged (lib : BusLibrary) (s : ManageableDevices) (path physaddress : CString) :
    ManageableDevices :=
  if physaddress = [] then s
  else
    match s.mdCacheFind ManageableDeviceInfo.physAddress physaddress with
    | none => s
    | some n =>
      match s.mdRequests[n]? with
      | none => s
      | some md =>
        match s.table.addManageableDevice lib (some (md.addHost (devicePrefix ++ path))) with
        | some t => { s with table := t, mdRequests := s.mdRequests.eraseIdx n }
        | none => { s with mdRequests := s.mdRequests.set n (md.addHost (devicePrefix ++ path)) }

/-! ### Runs -/

/-- The plugin before it is told of any device. -/
def init (hosts : Table ℕ CString) : ManageableDevices where
  hosts := hosts
  table := ⟨Table.empty, 0⟩
  mdRequests := []
  matching := []

/-- One event. -/
def step (lib : BusLibrary) (devices : CString → GmapDevice) (s : ManageableDevices) :
    DeviceEvent → Option ManageableDevices
  | .startMatching key =>
    some { s.startMatching lib devices key with matching := key :: s.matching }
  | .stopMatching key read =>
    some { s.stopMatching lib devices key read with matching := s.matching.filter (· ≠ key) }
  | .hostPhysChanged host physaddress =>
    some ({ s with hosts := s.hosts.put host physaddress }.hostPhysChanged lib (hostKey host)
      physaddress)

end ManageableDevices

end Tr069
