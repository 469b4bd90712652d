import TrustZone.Lib.Runs
import TrustZone.Lib.Traced
import TrustZone.Lib.Bytes
import TrustZone.Lib.Heap
import TrustZone.Lib.Ownership
import TrustZone.Lib.Der
import TrustZone.Lib.BackWriter
import TrustZone.Lib.Base64
import TrustZone.Ota.Pal
import TrustZone.Ota.Proof.Invariant
import TrustZone.Ota.Proof.Commit
import TrustZone.Ota.Proof.Install
import TrustZone.Ota.Proof.WriteBlock
import TrustZone.Ota.Proof.Signature
import TrustZone.KvStore.Cache
import TrustZone.KvStore.KvStore
import TrustZone.KvStore.Proof.Cache
import TrustZone.KvStore.Proof.NvPsaIts
import TrustZone.KvStore.Proof.Store
import TrustZone.KvStore.Proof.Init
import TrustZone.KvStore.Proof.Durable
import TrustZone.KvStore.Proof.Ownership
import TrustZone.KvStore.Proof.DirtyFlag
import TrustZone.KvStore.Proof.LastWrite
import TrustZone.KvStore.Proof.Accessors
import TrustZone.KvStore.Proof.StringGetters
import TrustZone.Pkcs11.Find
import TrustZone.Pkcs11.SignVerify
import TrustZone.Pkcs11.Digest
import TrustZone.Pkcs11.Stores
import TrustZone.Pkcs11.ObjectManagement
import TrustZone.Pkcs11.CreateObject
import TrustZone.Pkcs11.KeyImport
import TrustZone.Pkcs11.GenerateKeyPair
import TrustZone.Pkcs11.TemplateAccess
import TrustZone.Pkcs11.Lifecycle
import TrustZone.Pkcs11.GetAttributeValue
import TrustZone.Pkcs11.AttributeWrites
import TrustZone.Pkcs11.CorePkcs11
import TrustZone.Pkcs11.Proof.ObjectList
import TrustZone.Pkcs11.Proof.ObjectListRuns
import TrustZone.Pkcs11.Proof.Find
import TrustZone.Pkcs11.Proof.FindInit
import TrustZone.Pkcs11.Proof.TemplateAccess
import TrustZone.Pkcs11.Proof.SignVerify
import TrustZone.Pkcs11.Proof.SignProtocol
import TrustZone.Pkcs11.Proof.CreateObject
import TrustZone.Pkcs11.Proof.KeyImport
import TrustZone.Pkcs11.Proof.Digest
import TrustZone.Pkcs11.Proof.DigestRuns
import TrustZone.Pkcs11.Proof.KeyMarks
import TrustZone.Pkcs11.Proof.ListedObjects
import TrustZone.Pkcs11.Proof.GenerateKeyPair
import TrustZone.Pkcs11.Proof.TokenObjects
import TrustZone.Pkcs11.Proof.DestroyObject
import TrustZone.Pkcs11.Proof.AttributeWrites
import TrustZone.Crypto.PsaUtil
import TrustZone.Crypto.MbedtlsPkPkcs11
import TrustZone.Crypto.PkiObjectPsa
import TrustZone.Crypto.GenerateKeyPair
import TrustZone.Crypto.PkiObject
import TrustZone.Crypto.PkiObjectPkcs11
import TrustZone.Crypto.PkiServices
import TrustZone.Crypto.Proof.EcdsaSig
import TrustZone.Crypto.Proof.MbedtlsPkPkcs11
import TrustZone.Crypto.Proof.PkiObjectPsa
import TrustZone.Crypto.Proof.Pkcs11Status
import TrustZone.Crypto.Proof.PkiObject
import TrustZone.Crypto.Proof.GenerateKeyPair
import TrustZone.Crypto.Proof.PkiObjectPkcs11
import TrustZone.Cli.Console
import TrustZone.Cli.Pem
import TrustZone.Cli.Proof.Pem
import TrustZone.Sockets.Tls
import TrustZone.Sockets.SecureSockets
import TrustZone.Sockets.Proof.RequireTls
import TrustZone.Sockets.SigningCallback
import TrustZone.Sockets.Proof.SigningCallback
import TrustZone.Lib.TopicFilter
import TrustZone.Mqtt.Proof.SubscriptionManager
import TrustZone.OtaDemo.Proof.Routing
import TrustZone.OtaDemo.Proof.EventBuffers
import TrustZone.OtaDemo.Commands
import TrustZone.OtaDemo.Proof.Commands
import TrustZone.OtaDemo.Connection
import TrustZone.OtaDemo.Proof.Connection
import TrustZone.Pkcs11.Proof.SessionHeap
import TrustZone.Crypto.Provisioning
import TrustZone.Crypto.Proof.Provisioning
import TrustZone.Crypto.Proof.Provisioned
import TrustZone.Crypto.Proof.Reprovision
import TrustZone.Pkcs11.PemToDer
import TrustZone.Crypto.Proof.Searches
import TrustZone.Cli.Proof.Strings
import TrustZone.Cli.Proof.PemReader
import TrustZone.Cli.Proof.PemLaw
import TrustZone.Cli.CommandLine
import TrustZone.Cli.Proof.CommandLine
import TrustZone.Cli.Proof.Dispatch
import TrustZone.Lib.Words
import TrustZone.Cli.Proof.Help
import TrustZone.Cli.ReadLine
import TrustZone.Cli.Proof.ReadLine
import TrustZone.Lib.Strtol
import TrustZone.Cli.Conf
import TrustZone.Cli.Proof.ConfSet
import TrustZone.Cli.Proof.ConfGet
import TrustZone.Crypto.Proof.KeypairLabels
import TrustZone.Crypto.ReadPublicKey
import TrustZone.Crypto.Proof.ReadPublicKey
import TrustZone.Crypto.MbedtlsPkPsa
import TrustZone.Crypto.Proof.SignatureBuffer
import TrustZone.Crypto.ReadObject
import TrustZone.Crypto.Proof.ReadObject
import TrustZone.Sockets.IotSocket
import TrustZone.Sockets.Proof.IotSocket
import TrustZone.Sockets.Proof.ResultCodes
import TrustZone.Sockets.SocketHeap
import TrustZone.Sockets.Proof.SocketHeap
import TrustZone.Cli.Pki
import TrustZone.Cli.Proof.PkiConsole
import TrustZone.Cli.Proof.PkiLabels
import TrustZone.Cli.Proof.PkiOutcome
import TrustZone.Pkcs11.Proof.Handles
import TrustZone.Board.Proof.RetargetStdio
import TrustZone.Sockets.Proof.NetworkInterface
import TrustZone.Sockets.FreeRTOSTcp
import TrustZone.Sockets.Proof.FreeRTOSTcp
import TrustZone.KvStore.Proof.NvLittlefs
import TrustZone.Provision.Proof.TargetDevice
import TrustZone.Provision.Proof.ReadConfig
import TrustZone.Crypto.Pkcs11Sessions
import TrustZone.Crypto.Proof.Pkcs11Sessions
import TrustZone.Crypto.PkiBlocks
import TrustZone.Crypto.Proof.PkiBlocks
import TrustZone.Cli.PkiBlocks
import TrustZone.Cli.Proof.PkiBlocks
import TrustZone.Lib.Ring
import TrustZone.TaskPool.LinearContainers
import TrustZone.TaskPool.Life
import TrustZone.TaskPool.Proof.Life
import TrustZone.TaskPool.Proof.LinearContainers
import TrustZone.TaskPool.Proof.Progress
import TrustZone.TaskPool.Proof.Load
import TrustZone.TaskPool.Proof.Timer
import TrustZone.TaskPool.Proof.Lists
